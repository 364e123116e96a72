/-
The checkpoints of a workflow in PostgreSQL, and what its tasks have written since.

Both tables are written with an insert that changes a row which is there already.  The serialiser
and the keys of a checkpoint belong to a library, and how texts compare and how rows that tie are
ordered to the database.  Identifiers and channels have up to 128 characters, as their columns.
-/
import SelfHealing.Lib.Base64
import SelfHealing.Lib.Listing
import SelfHealing.Lib.Upsert

namespace SelfHealing

/-- The text of a `varchar(128)`. -/
abbrev ColumnText : Type := { text : String // text.length ≤ 128 }

/-- A serialised value, as it is stored. -/
structure Payload where
  format : String
  data : String
deriving DecidableEq

/-- The serialiser: it reads back what it has written. -/
structure Serde (V : Type) where
  dumpsTyped : V → String × List UInt8
  loadsTyped : String × List UInt8 → Option V
  roundTrip : ∀ value, loadsTyped (dumpsTyped value) = some value

/-- What `configurable` holds; the rest of a config is only read by `get_checkpoint_metadata`. -/
structure RunnableConfig (C : Type) where
  threadId : ColumnText
  checkpointNs : Option ColumnText := none
  checkpointId : Option ColumnText := none
  rest : C

/-- `get("checkpoint_ns", "")`. -/
def RunnableConfig.ns {C : Type} (config : RunnableConfig C) : ColumnText :=
  config.checkpointNs.getD ⟨"", by decide⟩

/-- An identifier, if it is not empty. -/
def given (id : Option ColumnText) : Option ColumnText := id.filter fun id => decide (id.val ≠ "")

/-- What identifies a checkpoint. -/
structure CheckpointKey where
  threadId : ColumnText
  checkpointNs : ColumnText
  checkpointId : ColumnText
deriving DecidableEq

/-- A row of `workflow_checkpoints`. -/
structure WorkflowCheckpoint where
  threadId : ColumnText
  checkpointNs : ColumnText
  checkpointId : ColumnText
  parentCheckpointId : Option ColumnText
  type : String
  checkpoint : Payload
  checkpointMetadata : Payload
  createdAt : Int
deriving DecidableEq

def WorkflowCheckpoint.key (row : WorkflowCheckpoint) : CheckpointKey :=
  ⟨row.threadId, row.checkpointNs, row.checkpointId⟩

/-- A row of `workflow_checkpoint_writes`. -/
structure WorkflowCheckpointWrite where
  threadId : ColumnText
  checkpointNs : ColumnText
  checkpointId : ColumnText
  taskId : ColumnText
  idx : Nat
  channel : ColumnText
  type : String
  value : Payload

/-- The checkpoint that a write is kept for. -/
def WorkflowCheckpointWrite.checkpointKey (row : WorkflowCheckpointWrite) : CheckpointKey :=
  ⟨row.threadId, row.checkpointNs, row.checkpointId⟩

/-- The conflict clause of `aput`. -/
def checkpointTable : Upsert.Table WorkflowCheckpoint CheckpointKey where
  key := WorkflowCheckpoint.key
  update row new :=
    { row with checkpoint := new.checkpoint, checkpointMetadata := new.checkpointMetadata }
  key_update _ _ := rfl

/-- The conflict clause of `aput_writes`. -/
def writeTable : Upsert.Table WorkflowCheckpointWrite (CheckpointKey × ColumnText × Nat) where
  key row := (row.checkpointKey, row.taskId, row.idx)
  update row new := { row with value := new.value }
  key_update _ _ := rfl

structure CheckpointStore where
  checkpoints : List WorkflowCheckpoint := []
  writes : List WorkflowCheckpointWrite := []

/-- `created_at.desc()`. -/
def Newer (row row' : WorkflowCheckpoint) : Prop := row'.createdAt ≤ row.createdAt

/-- `idx.asc()`. -/
def Earlier (write write' : WorkflowCheckpointWrite) : Prop := write.idx ≤ write'.idx

instance : DecidableRel Newer := fun row row' => Int.decLe row'.createdAt row.createdAt
instance : DecidableRel Earlier := fun write write' => Nat.decLe write.idx write'.idx

instance : Std.Total Newer := ⟨fun row row' => le_total row'.createdAt row.createdAt⟩
instance : IsTrans WorkflowCheckpoint Newer := ⟨fun _ _ _ h h' => le_trans h' h⟩
instance : Std.Total Earlier := ⟨fun write write' => le_total write.idx write'.idx⟩
instance : IsTrans WorkflowCheckpointWrite Earlier := ⟨fun _ _ _ h h' => le_trans h h'⟩

/-- What is read of a checkpoint itself. -/
structure CheckpointRecord (V : Type) where
  config : CheckpointKey
  checkpoint : V
  metadata : V
  parentConfig : Option CheckpointKey

structure CheckpointTuple (V : Type) extends CheckpointRecord V where
  pendingWrites : List (ColumnText × ColumnText × V)

/-- The saver, with what the library gives it. -/
structure Saver (V C : Type) where
  serde : Serde V
  /-- `str(checkpoint["id"])`. -/
  checkpointIdOf : V → ColumnText
  getCheckpointMetadata : RunnableConfig C → V → V

namespace Saver

variable {V C : Type} (saver : Saver V C)

/-- `_encode`. -/
def encode (data : V) : Payload where
  format := (saver.serde.dumpsTyped data).1
  data := String.ofList (Base64.encode (saver.serde.dumpsTyped data).2)

/-- `_decode`; nothing, if it raises. -/
def decode (payload : Payload) : Option V :=
  if payload.data.toList.all fun c => decide (c.toNat < 128) then
    (Base64.decode payload.data.toList).bind fun raw => saver.serde.loadsTyped (payload.format, raw)
  else none

/-! ### Writing -/

/-- The row that `aput` inserts. -/
def checkpointRow (config : RunnableConfig C) (checkpoint metadata : V) (now : Int) :
    WorkflowCheckpoint where
  threadId := config.threadId
  checkpointNs := config.ns
  checkpointId := saver.checkpointIdOf checkpoint
  parentCheckpointId := config.checkpointId
  type := (saver.encode checkpoint).format
  checkpoint := saver.encode checkpoint
  checkpointMetadata := saver.encode (saver.getCheckpointMetadata config metadata)
  createdAt := now

/-- `aput`, with what it returns. -/
def aput (store : CheckpointStore) (config : RunnableConfig C) (checkpoint metadata : V)
    (now : Int) : CheckpointStore × CheckpointKey :=
  let row := saver.checkpointRow config checkpoint metadata now
  ({ store with checkpoints := checkpointTable.upsert row store.checkpoints }, row.key)

/-- The rows that `aput_writes` inserts. -/
def writeRows (key : CheckpointKey) (writes : List (ColumnText × V)) (taskId : ColumnText) :
    List WorkflowCheckpointWrite :=
  writes.zipIdx.map fun ((channel, val), idx) =>
    { threadId := key.threadId
      checkpointNs := key.checkpointNs
      checkpointId := key.checkpointId
      taskId, idx, channel
      type := (saver.encode val).format
      value := saver.encode val }

/-- `aput_writes`; it raises where the config has no checkpoint. -/
def aputWrites (store : CheckpointStore) (config : RunnableConfig C)
    (writes : List (ColumnText × V)) (taskId : ColumnText) : Option CheckpointStore :=
  config.checkpointId.map fun checkpointId =>
    let rows := saver.writeRows ⟨config.threadId, config.ns, checkpointId⟩ writes taskId
    { store with writes := writeTable.load rows store.writes }

/-! ### Reading -/

/-- The tuple of a row, as both `aget_tuple` and `alist` make it; nothing, if it raises. -/
def tupleOf (byIdx : Listing.OrderBy Earlier) (store : CheckpointStore)
    (row : WorkflowCheckpoint) : Option (CheckpointTuple V) := do
  let writeRows := byIdx.rows (store.writes.filter fun w => decide (w.checkpointKey = row.key))
  let checkpoint ← saver.decode row.checkpoint
  let metadata ← saver.decode row.checkpointMetadata
  let pendingWrites ← writeRows.mapM fun w =>
    (saver.decode w.value).map fun val => (w.taskId, w.channel, val)
  some
    { config := row.key
      checkpoint, metadata, pendingWrites
      parentConfig :=
        (given row.parentCheckpointId).map fun parentId =>
          ⟨row.threadId, row.checkpointNs, parentId⟩ }

/-- The checkpoints of a thread and namespace. -/
def threadRows (store : CheckpointStore) (config : RunnableConfig C) : List WorkflowCheckpoint :=
  store.checkpoints.filter fun row =>
    decide (row.threadId = config.threadId ∧ row.checkpointNs = config.ns)

/-- The row that `aget_tuple` reads. -/
def selectedRow (newest : Listing.OrderBy Newer) (store : CheckpointStore)
    (config : RunnableConfig C) : Option WorkflowCheckpoint :=
  match given config.checkpointId with
  | some checkpointId =>
      (threadRows store config).find? fun row => decide (row.checkpointId = checkpointId)
  | none => (newest.rows (threadRows store config)).head?

/-- `aget_tuple`: there may be no such checkpoint, and it may raise. -/
def agetTuple (newest : Listing.OrderBy Newer) (byIdx : Listing.OrderBy Earlier)
    (store : CheckpointStore) (config : RunnableConfig C) : Option (Option (CheckpointTuple V)) :=
  match selectedRow newest store config with
  | none => some none
  | some row => (saver.tupleOf byIdx store row).map some

/-- The clause that `alist` adds for `before`.  Texts compare as the database collates them. -/
def idBefore (collate : String → String → Bool) (before : Option (RunnableConfig C))
    (row : WorkflowCheckpoint) : Bool :=
  match before.bind fun before => given before.checkpointId with
  | some beforeId => collate row.checkpointId.val beforeId.val
  | none => true

/-- `if limit:`; the database refuses a negative one. -/
def limited (limit : Option Int) (rows : List WorkflowCheckpoint) :
    Option (List WorkflowCheckpoint) :=
  match limit with
  | none => some rows
  | some limit =>
      if limit = 0 then some rows
      else if limit < 0 then none
      else some (rows.take limit.toNat)

/-- `alist`, with all that it yields.  It does nothing with the filter. -/
def alist (newest : Listing.OrderBy Newer) (byIdx : Listing.OrderBy Earlier)
    (collate : String → String → Bool) (store : CheckpointStore)
    (config : Option (RunnableConfig C)) (_filter : Option (List (String × V)))
    (before : Option (RunnableConfig C)) (limit : Option Int) :
    Option (List (CheckpointTuple V)) :=
  match config with
  | none => some []
  | some config => do
      let stmt := (threadRows store config).filter (idBefore collate before)
      let rows ← limited limit (newest.rows stmt)
      rows.mapM (saver.tupleOf byIdx store)

end Saver

/-! ### Histories -/

/-- A call that writes. -/
inductive SaverCall (V C : Type)
  | aput (config : RunnableConfig C) (checkpoint metadata : V) (now : Int)
  | aputWrites (config : RunnableConfig C) (writes : List (ColumnText × V)) (taskId : ColumnText)

namespace Saver

variable {V C : Type} (saver : Saver V C)

/-- A call that raises changes nothing. -/
def step (store : CheckpointStore) : SaverCall V C → CheckpointStore
  | .aput config checkpoint metadata now => (saver.aput store config checkpoint metadata now).1
  | .aputWrites config writes taskId =>
      (saver.aputWrites store config writes taskId).getD store

/-- What a history of calls leaves. -/
def after (calls : List (SaverCall V C)) : CheckpointStore := calls.foldl saver.step {}

end Saver

end SelfHealing
