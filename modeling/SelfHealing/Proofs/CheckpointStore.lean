/-
What a history of calls leaves in the tables of the checkpoints.

Either table is what the rows that the calls insert leave, one after the other.  Every payload in
them was written by the serialiser, so reading a row never raises.

A call that raises inserts nothing, and a call that is made again inserts the same rows again, which
the conflict clause deals with.  So a history of calls is a list of rows, and all that is said of
the tables later is said of that list: what is under a key is what the library of upserts says.
-/
import Mathlib.Data.String.Basic
import SelfHealing.Checkpoints

namespace SelfHealing

/-- Where a function raises on nothing, mapping it over a list does not raise either. -/
theorem mapM_eq_filterMap {α β : Type} {f : α → Option β} {l : List α}
    (h : ∀ a ∈ l, (f a).isSome) : l.mapM f = some (l.filterMap f) := by
  induction l with
  | nil => rfl
  | cons a l ih =>
      obtain ⟨ha, hl⟩ := List.forall_mem_cons.mp h
      obtain ⟨b, hb⟩ := Option.isSome_iff_exists.mp ha
      rw [List.mapM_cons, hb, ih hl, List.filterMap_cons_some hb]
      rfl

namespace Saver

variable {V C : Type} (saver : Saver V C)

/-- What was encoded is decoded again. -/
theorem decode_encode (value : V) : saver.decode (saver.encode value) = some value := by
  unfold decode encode
  simp only [String.toList_ofList]
  rw [if_pos, Base64.decode_encode]
  · exact saver.serde.roundTrip value
  · rw [List.all_eq_true]
    intro c hc
    simpa using Base64.encode_ascii _ c hc

/-! ### The two tables

A checkpoint is inserted once under its key; a write takes a place under the key of its task and
its index.
-/

/-- The checkpoint that a call writes. -/
def insertedCheckpoint : SaverCall V C → Option WorkflowCheckpoint
  | .aput config checkpoint metadata now =>
      some (saver.checkpointRow config checkpoint metadata now)
  | .aputWrites .. => none

/-- The checkpoint that a call adds writes to. -/
def writtenTo : SaverCall V C → Option CheckpointKey
  | .aput .. => none
  | .aputWrites config _ _ => config.checkpointId.map fun id => ⟨config.threadId, config.ns, id⟩

/-- The writes that a call inserts. -/
def insertedWrites (call : SaverCall V C) : List WorkflowCheckpointWrite :=
  match writtenTo call, call with
  | some key, .aputWrites _ writes taskId => saver.writeRows key writes taskId
  | _, _ => []

theorem step_checkpoints (store : CheckpointStore) (call : SaverCall V C) :
    (saver.step store call).checkpoints =
      checkpointTable.load (saver.insertedCheckpoint call).toList store.checkpoints := by
  cases call with
  | aput config checkpoint metadata now => rfl
  | aputWrites config writes taskId =>
      obtain ⟨thread, ns, id, rest⟩ := config
      cases id with
      | none => rfl
      | some id => rfl

theorem step_writes (store : CheckpointStore) (call : SaverCall V C) :
    (saver.step store call).writes =
      writeTable.load (saver.insertedWrites call) store.writes := by
  cases call with
  | aput config checkpoint metadata now => rfl
  | aputWrites config writes taskId =>
      obtain ⟨thread, ns, id, rest⟩ := config
      cases id with
      | none => rfl
      | some id => rfl

theorem foldl_step_checkpoints (calls : List (SaverCall V C)) (store : CheckpointStore) :
    (calls.foldl saver.step store).checkpoints =
      checkpointTable.load (calls.filterMap saver.insertedCheckpoint) store.checkpoints := by
  induction calls generalizing store with
  | nil => rfl
  | cons call calls ih =>
      rw [List.foldl_cons, ih, step_checkpoints]
      cases hcall : saver.insertedCheckpoint call with
      | none => rw [List.filterMap_cons_none hcall]; rfl
      | some row => rw [List.filterMap_cons_some hcall]; rfl

theorem checkpoints_after (calls : List (SaverCall V C)) :
    (saver.after calls).checkpoints =
      checkpointTable.load (calls.filterMap saver.insertedCheckpoint) [] :=
  saver.foldl_step_checkpoints calls {}

theorem foldl_step_writes (calls : List (SaverCall V C)) (store : CheckpointStore) :
    (calls.foldl saver.step store).writes =
      writeTable.load (calls.flatMap saver.insertedWrites) store.writes := by
  induction calls generalizing store with
  | nil => rfl
  | cons call calls ih =>
      rw [List.foldl_cons, ih, step_writes, List.flatMap_cons]
      exact (List.foldl_append ..).symm

theorem writes_after (calls : List (SaverCall V C)) :
    (saver.after calls).writes = writeTable.load (calls.flatMap saver.insertedWrites) [] :=
  saver.foldl_step_writes calls {}

/-! ### Every row can be read -/

theorem mem_insertedWrites {call : SaverCall V C} {row : WorkflowCheckpointWrite}
    (h : row ∈ saver.insertedWrites call) : ∃ val, row.value = saver.encode val := by
  unfold insertedWrites at h
  split at h
  · obtain ⟨⟨⟨channel, val⟩, idx⟩, -, rfl⟩ := List.mem_map.mp h
    exact ⟨val, rfl⟩
  · cases h

theorem writes_decode (calls : List (SaverCall V C)) :
    ∀ row ∈ (saver.after calls).writes, (saver.decode row.value).isSome := by
  rw [writes_after]
  refine Upsert.forall_mem_load writeTable (List.forall_mem_nil _) ?_ fun _ _ _ hnew => hnew
  intro row hrow
  obtain ⟨call, -, hmem⟩ := List.mem_flatMap.mp hrow
  obtain ⟨val, hval⟩ := saver.mem_insertedWrites hmem
  rw [hval, decode_encode]
  rfl

theorem checkpoints_decode (calls : List (SaverCall V C)) :
    ∀ row ∈ (saver.after calls).checkpoints, ∃ checkpoint metadata,
      saver.decode row.checkpoint = some checkpoint ∧
      saver.decode row.checkpointMetadata = some metadata := by
  rw [checkpoints_after]
  refine Upsert.forall_mem_load checkpointTable (List.forall_mem_nil _) ?_ fun _ _ _ hnew => hnew
  intro row hrow
  obtain ⟨call, -, hcall⟩ := List.mem_filterMap.mp hrow
  cases call with
  | aput config checkpoint metadata now =>
      cases hcall
      exact ⟨_, _, saver.decode_encode checkpoint, saver.decode_encode _⟩
  | aputWrites config writes taskId => cases hcall

/-- A pending write of a row, decoded. -/
def pendingWrite (w : WorkflowCheckpointWrite) : Option (ColumnText × ColumnText × V) :=
  (saver.decode w.value).map fun val => (w.taskId, w.channel, val)

theorem tupleOf_after (byIdx : Listing.OrderBy Earlier) (calls : List (SaverCall V C))
    {row : WorkflowCheckpoint} {checkpoint metadata : V}
    (hcheckpoint : saver.decode row.checkpoint = some checkpoint)
    (hmetadata : saver.decode row.checkpointMetadata = some metadata) :
    saver.tupleOf byIdx (saver.after calls) row = some
      { config := row.key
        checkpoint, metadata
        parentConfig := (given row.parentCheckpointId).map fun parentId =>
          ⟨row.threadId, row.checkpointNs, parentId⟩
        pendingWrites :=
          (byIdx.rows ((saver.after calls).writes.filter fun w =>
            decide (w.checkpointKey = row.key))).filterMap saver.pendingWrite } := by
  have hwrites : ∀ w ∈ byIdx.rows ((saver.after calls).writes.filter fun w =>
      decide (w.checkpointKey = row.key)), (saver.pendingWrite w).isSome := by
    intro w hw
    have hmem := (List.mem_filter.mp (((byIdx.answers _).mem w).mp hw)).1
    unfold pendingWrite
    rw [Option.isSome_map]
    exact saver.writes_decode calls w hmem
  have hmap := mapM_eq_filterMap hwrites
  unfold pendingWrite at hmap ⊢
  unfold tupleOf
  simp only [hcheckpoint, hmetadata, hmap, Option.bind_eq_bind, Option.bind_some]

end Saver

/-! ### A few values -/

inductive Sample
  | checkpoint (later : Bool)
  | metadata (later : Bool)
  | text (later : Bool)
deriving DecidableEq

namespace Sample

def json : Sample → String
  | .checkpoint false => "\x7b\"id\":\"1\"\x7d"
  | .checkpoint true => "\x7b\"id\":\"2\"\x7d"
  | .metadata false => "\x7b\"source\":\"input\"\x7d"
  | .metadata true => "\x7b\"source\":\"loop\"\x7d"
  | .text false => "\"input\""
  | .text true => "\"loop\""

def bytes (value : Sample) : List UInt8 := value.json.toList.map fun c => UInt8.ofNat c.toNat

def all : List Sample :=
  [.checkpoint false, .checkpoint true, .metadata false, .metadata true, .text false, .text true]

def serde : Serde Sample where
  dumpsTyped value := ("json", value.bytes)
  loadsTyped typed :=
    if typed.1 = "json" then all.find? fun value => decide (value.bytes = typed.2) else none
  roundTrip value := by
    cases value with
    | checkpoint later => cases later <;> decide
    | metadata later => cases later <;> decide
    | text later => cases later <;> decide

/-- The metadata are kept as they are where the config adds nothing to them. -/
def saver : Saver Sample Unit where
  serde := serde
  checkpointIdOf value :=
    match value with
    | .checkpoint true => ⟨"2", by decide⟩
    | _ => ⟨"1", by decide⟩
  getCheckpointMetadata _ metadata := metadata

/-- `metadata.get(key)`. -/
def lookup : Sample → String → Option Sample
  | .metadata later, "source" => some (.text later)
  | _, _ => none

theorem one_fits : "1".length ≤ 128 := by decide

def config (checkpointId : Option ColumnText) : RunnableConfig Unit where
  threadId := ⟨"incident-1", by decide⟩
  checkpointId := checkpointId
  rest := ()

end Sample

end SelfHealing
