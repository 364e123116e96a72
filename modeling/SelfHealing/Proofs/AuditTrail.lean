/-
What the audit trail tells of the tables.

The trail alone, replayed in the order of its numbers, gives every audited row as it is, but for the
hashes of passwords: however the transactions run side by side, and however many of them are undone.
The numbers are not drawn in the order in which transactions commit, but a row stays locked from the
first change to it until its transaction ends, so that those of one row are (`RowAudited.numbers`).

The invariant is about one row at a time.  What a transaction has written on a row and what it has
added to the trail about it are the same, version by version.

A replay reads the committed entries only.  A number that was drawn by a transaction which was
undone is missing among them, and so the numbers of a row are in order but need not be next to each
other.
-/
import SelfHealing.Audit

namespace SelfHealing

open ChangeLog ReadCommitted

/-! ### Columns

The hash of a password is left out of both snapshots, and the key is not: the row of an entry can
be told.
-/

namespace DataDict

theorem lookup_withoutPassword {row : DataDict} {column : String} (h : column ≠ "password_hash") :
    row.withoutPassword.lookup column = row.lookup column := by
  unfold withoutPassword
  induction row with
  | nil => rfl
  | cons entry rest ih =>
      obtain ⟨name, value⟩ := entry
      by_cases hname : name = "password_hash"
      · rw [List.filter_cons_of_neg (by simp [hname]), ih, List.lookup_cons]
        have hne : (column == name) = false := by simp [hname, h]
        rw [hne]
      · rw [List.filter_cons_of_pos (by simp [hname]), List.lookup_cons, List.lookup_cons, ih]

theorem lookup_assign {row assigned : DataDict} {column : String}
    (h : (assigned.get? column).isNone = true) :
    (row.assign assigned).lookup column = row.lookup column := by
  unfold assign
  induction row with
  | nil => rfl
  | cons entry rest ih =>
      obtain ⟨name, value⟩ := entry
      rw [List.map_cons, List.lookup_cons, List.lookup_cons, ih]
      by_cases hname : column = name
      · subst hname
        have hnone : assigned.get? column = none := Option.isNone_iff_eq_none.mp h
        simp [getOr, hnone]
      · have hne : (column == name) = false := by simp [hname]
        rw [hne]

/-- A key is made of the columns of the key. -/
theorem keyIn_congr {tableName : String} {row row' : DataDict}
    (h : ∀ column ∈ keyColumns tableName, row.lookup column = row'.lookup column) :
    row.keyIn tableName = row'.keyIn tableName := by
  have hcongr : ∀ columns : List String,
      (∀ column ∈ columns, row.lookup column = row'.lookup column) →
      columns.mapM row.identifier = columns.mapM row'.identifier := by
    intro columns
    induction columns with
    | nil =>
        intro _
        rfl
    | cons column rest ih =>
        intro hall
        have hhead : row.identifier column = row'.identifier column := by
          unfold identifier get?
          rw [hall column List.mem_cons_self]
        rw [List.mapM_cons, List.mapM_cons, hhead,
          ih fun c hc => hall c (List.mem_cons_of_mem _ hc)]
  exact hcongr _ h

theorem keyColumns_ne {tableName column : String} (h : column ∈ keyColumns tableName) :
    column ≠ "password_hash" := by
  unfold keyColumns at h
  split at h
  · rcases List.mem_cons.mp h with rfl | h
    · decide
    · rw [List.mem_singleton.mp h]
      decide
  · split at h
    · rw [List.mem_singleton.mp h]
      decide
    · rw [List.mem_singleton.mp h]
      decide

@[simp] theorem keyIn_withoutPassword (tableName : String) (row : DataDict) :
    row.withoutPassword.keyIn tableName = row.keyIn tableName :=
  keyIn_congr fun _ hc => lookup_withoutPassword (keyColumns_ne hc)

theorem keyIn_assign {tableName : String} {row assigned : DataDict}
    (h : ((keyColumns tableName).all fun c => (assigned.get? c).isNone) = true) :
    (row.assign assigned).keyIn tableName = row.keyIn tableName :=
  keyIn_congr fun c hc => lookup_assign (List.all_eq_true.mp h c hc)

end DataDict

namespace AuditedTable

def all : List AuditedTable :=
  [resources, users, events, incidents, incidentEvents, evidenceItems, diagnoses, remediationPlans,
   remediationSteps, executions, verificationResults, policies, approvals, resourceLocks,
   modelInvocations, anomalyScores, demoCommands, dryRuns, automationControls]

theorem mem_all (table : AuditedTable) : table ∈ all := by cases table <;> decide

theorem names_nodup : (all.map name).Nodup := by decide

theorem name_inj {a b : AuditedTable} (h : a.name = b.name) : a = b :=
  List.inj_on_of_nodup_map names_nodup (mem_all a) (mem_all b) h

end AuditedTable

/-! ### Entries -/

/-- An entry that has been made for a change. -/
structure AuditEntry.Records (entry : AuditEntry) (table : AuditedTable) (view : RowView)
    (c : RowChange) : Prop where
  actor : blankActor entry.actor = false ∧ entry.actor.length ≤ 128
  entityType : entry.entityType = table.name
  incidentId : table = .incidents → entry.incidentId = c.row.identifier "id"
  known : ∀ id, entry.incidentId = some id → (view .incidents [id]).isSome = true
  details : entry.details = [("before", snapshotData c.old), ("after", snapshotData c.new)]

section Triggers

variable {table : AuditedTable} {view : RowView} {actor : Option String} {c : RowChange}
  {drawn : Drawn} {sequence : Nat} {entry : AuditEntry}

theorem insertAuditEntry_ok {required : String} {incident entity : Option String}
    (hincident : table = .incidents → incident = c.row.identifier "id")
    (h : insertAuditEntry table required incident entity view actor c drawn sequence =
      .ok entry) : entry.Records table view c ∧ entry.sequence = sequence := by
  unfold insertAuditEntry at h
  dsimp only at h
  by_cases hblank : blankActor (actor.getD "") = true
  · rw [if_pos hblank] at h
    cases h
  rw [if_neg hblank] at h
  by_cases hlong : 128 < (actor.getD "").length
  · rw [if_pos hlong] at h
    cases h
  rw [if_neg hlong] at h
  cases entity with
  | none => cases h
  | some entity =>
      dsimp only at h
      by_cases hknown : (incident.any fun id => (view .incidents [id]).isNone) = true
      · rw [if_pos hknown] at h
        cases h
      · rw [if_neg hknown] at h
        cases h
        refine ⟨⟨⟨by simpa using hblank, Nat.not_lt.mp hlong⟩, rfl, hincident, ?_, rfl⟩, rfl⟩
        intro id hid
        have hid' : incident = some id := hid
        rw [hid', Option.any_some, Bool.not_eq_true, Option.isNone_eq_false_iff] at hknown
        exact hknown

theorem auditChange_ok (h : auditChange table view actor c drawn sequence = .ok entry) :
    entry.Records table view c ∧ entry.sequence = sequence := by
  unfold auditChange at h
  split at h
  · refine insertAuditEntry_ok ?_ h
    intro htable
    cases htable
  · refine insertAuditEntry_ok ?_ h
    rintro rfl
    rfl

end Triggers

theorem dictOf_snapshotData (image : Option DataDict) :
    dictOf (snapshotData image) = image.map DataDict.withoutPassword := by
  cases image <;> rfl

namespace AuditEntry.Records

variable {entry : AuditEntry} {table : AuditedTable} {view : RowView} {c : RowChange}

theorem before_eq (h : entry.Records table view c) :
    entry.change.before = c.old.map DataDict.withoutPassword := by
  show (entry.details.lookup "before").bind dictOf = _
  rw [h.details]
  exact dictOf_snapshotData c.old

theorem after_eq (h : entry.Records table view c) :
    entry.change.after = c.new.map DataDict.withoutPassword := by
  show (entry.details.lookup "after").bind dictOf = _
  rw [h.details]
  exact dictOf_snapshotData c.new

/-- The row that an entry is about can be read off its snapshots. -/
theorem key_eq (h : entry.Records table view c) {key : List String}
    (hkey : c.row.keyIn table.name = some key) : entry.change.key = (table.name, some key) := by
  have himage : (entry.image "after" <|> entry.image "before") =
      some c.row.withoutPassword := by
    have hafter : entry.image "after" = _ := h.after_eq
    have hbefore : entry.image "before" = _ := h.before_eq
    rw [hafter, hbefore]
    cases c <;> rfl
  show (entry.entityType, (entry.image "after" <|> entry.image "before").bind
    (DataDict.keyIn entry.entityType)) = _
  rw [himage, h.entityType, Option.bind_some, DataDict.keyIn_withoutPassword, hkey]

end AuditEntry.Records

/-! ### What a statement does -/

/-- No version of any row is written.  Rows may be locked. -/
structure Unwritten (s s' : AuditedStore) : Prop where
  versions : ∀ table key, (s'.cells table key).versions = (s.cells table key).versions
  own : ∀ table key u, (s'.cells table key).own u = (s.cells table key).own u
  chain : ∀ table key, (s'.cells table key).chain = (s.cells table key).chain
  locked : ∀ table key u, (s.cells table key).locked u → (s'.cells table key).locked u
  trail : s'.trail = s.trail
  unsaved : s'.unsaved = s.unsaved
  nextSequence : s'.nextSequence = s.nextSequence

theorem Unwritten.refl (s : AuditedStore) : Unwritten s s :=
  ⟨fun _ _ => rfl, fun _ _ _ => rfl, fun _ _ => rfl, fun _ _ _ h => h, rfl, rfl, rfl⟩

theorem Unwritten.trans {s s' s'' : AuditedStore} (h : Unwritten s s') (h' : Unwritten s' s'') :
    Unwritten s s'' where
  versions table key := (h'.versions table key).trans (h.versions table key)
  own table key u := (h'.own table key u).trans (h.own table key u)
  chain table key := (h'.chain table key).trans (h.chain table key)
  locked table key u hl := h'.locked table key u (h.locked table key u hl)
  trail := h'.trail.trans h.trail
  unsaved := h'.unsaved.trans h.unsaved
  nextSequence := h'.nextSequence.trans h.nextSequence

theorem Unwritten.visible {s s' : AuditedStore} (h : Unwritten s s') (table : AuditedTable)
    (key : List String) (t : Nat) :
    (s'.cells table key).visible t = (s.cells table key).visible t := by
  unfold Cell.visible Cell.view
  rw [h.own, h.versions]

/-- A transaction has locked rows, and those that were free for it are so still. -/
structure Locks (s s' : AuditedStore) (t : Nat) : Prop where
  unwritten : Unwritten s s'
  free : ∀ table key, (s.cells table key).free t = true → (s'.cells table key).free t = true
  actor : s'.actor = s.actor

theorem Locks.refl (s : AuditedStore) (t : Nat) : Locks s s t :=
  ⟨Unwritten.refl s, fun _ _ h => h, rfl⟩

theorem Locks.trans {s s' s'' : AuditedStore} {t : Nat} (h : Locks s s' t) (h' : Locks s' s'' t) :
    Locks s s'' t :=
  ⟨h.unwritten.trans h'.unwritten, fun table key hf => h'.free table key (h.free table key hf),
    h'.actor.trans h.actor⟩

/-- A transaction has changed a row, and recorded it. -/
structure Changes (s s' : AuditedStore) (t : Nat) (table : AuditedTable) (key : List String)
    (c : RowChange) (entry : AuditEntry) : Prop where
  free : (s.cells table key).free t = true
  old : (s.cells table key).visible t = c.old
  keyed : (∀ row, c.old = some row → row.keyIn table.name = some key) →
    c.row.keyIn table.name = some key
  records : entry.Records table (s'.view t) c
  number : s.nextSequence ≤ entry.sequence ∧ s'.nextSequence = entry.sequence + 1
  cells : s'.cells =
    Function.update s.cells table
      (Function.update (s.cells table) key ((s.cells table key).write t c.new))
  trail : s'.trail = s.trail
  unsaved : s'.unsaved = Function.update s.unsaved t (entry :: s.unsaved t)

/-- What a statement of a transaction can do: nothing to the rows, a change that the triggers let
pass and that is recorded, or the end of the transaction. -/
def Outcome (refuses : Refusals) (s s' : AuditedStore) (t : Nat) : Prop :=
  Unwritten s s' ∨
    (∃ guarded table key c entry, s.beforeChange t table c = some guarded ∧
      refuses table (s'.view t) c = false ∧ Changes guarded s' t table key c entry) ∨
    s' = s.finish t (Cell.commit t) (s.unsaved t) ∨ s' = s.finish t (Cell.rollback t) []

theorem update_cells {cells : AuditedTable → List String → Cell Nat DataDict}
    {table table' : AuditedTable} {key key' : List String} {cell : Cell Nat DataDict} :
    Function.update cells table (Function.update (cells table) key cell) table' key' =
      if table' = table ∧ key' = key then cell else cells table' key' := by
  by_cases htable : table' = table
  · subst htable
    rw [Function.update_self]
    by_cases hkey : key' = key
    · subst hkey
      rw [Function.update_self, if_pos ⟨rfl, rfl⟩]
    · rw [Function.update_of_ne hkey, if_neg fun h => hkey h.2]
  · rw [Function.update_of_ne htable, if_neg fun h => htable h.1]

theorem unwritten_lock {s : AuditedStore} {t : Nat} {table : AuditedTable} {key : List String}
    (hfree : (s.cells table key).free t = true) :
    Unwritten s (s.setCell table key ((s.cells table key).lock t)) := by
  have hcells : ∀ table' key',
      (s.setCell table key ((s.cells table key).lock t)).cells table' key' =
        if table' = table ∧ key' = key then (s.cells table key).lock t
        else s.cells table' key' := fun _ _ => update_cells
  have hstep : Cell.Step (fun _ _ => True) t (s.cells table key) ((s.cells table key).lock t) :=
    .lock _ hfree
  refine ⟨?_, ?_, ?_, ?_, rfl, rfl, rfl⟩
  · intro table' key'
    rw [hcells]
    split
    · rename_i heq
      obtain ⟨rfl, rfl⟩ := heq
      rfl
    · rfl
  · intro table' key' u
    rw [hcells]
    split
    · rename_i heq
      obtain ⟨rfl, rfl⟩ := heq
      by_cases hu : u = t
      · rw [hu, Cell.own_lock]
      · exact hstep.own_eq (Ne.symm hu)
    · rfl
  · intro table' key'
    rw [hcells]
    split
    · rename_i heq
      obtain ⟨rfl, rfl⟩ := heq
      rw [Cell.chain_eq_view (Cell.locked_free Cell.locked_lock), Cell.chain_eq_view hfree]
      unfold Cell.view
      rw [Cell.own_lock, Cell.lock_versions]
    · rfl
  · intro table' key' u hl
    rw [hcells]
    split
    · rename_i heq
      obtain ⟨rfl, rfl⟩ := heq
      by_cases hu : u = t
      · rw [hu]
        exact Cell.locked_lock
      · obtain ⟨vs, hvs⟩ := hl
        simp only [Cell.free, hvs, decide_eq_true_eq] at hfree
        exact absurd hfree hu
    · exact hl

theorem locks_lock {s : AuditedStore} {t : Nat} {table : AuditedTable} {key : List String}
    (hfree : (s.cells table key).free t = true) :
    Locks s (s.setCell table key ((s.cells table key).lock t)) t := by
  refine ⟨unwritten_lock hfree, ?_, rfl⟩
  intro table' key' hf
  have hcell : (s.setCell table key ((s.cells table key).lock t)).cells table' key' = _ :=
    update_cells
  rw [hcell]
  split
  · exact Cell.locked_free Cell.locked_lock
  · exact hf

theorem lockPlan_locks {s s' : AuditedStore} {t : Nat} {step : DataDict}
    (h : s.lockPlan t step = some s') : Locks s s' t := by
  unfold AuditedStore.lockPlan at h
  split at h
  · cases h
    exact Locks.refl s t
  · dsimp only at h
    split at h
    · cases h
      exact Locks.refl s t
    · split at h
      · rename_i hok
        rw [Bool.and_eq_true] at hok
        cases h
        exact locks_lock hok.1
      · cases h

/-- The plan of a step is locked, if there is a step. -/
theorem elim_lockPlan_locks {s s' : AuditedStore} {t : Nat} {image : Option DataDict}
    (h : image.elim (some s) (s.lockPlan t) = some s') : Locks s s' t := by
  cases image with
  | none =>
      cases h
      exact Locks.refl _ _
  | some step => exact lockPlan_locks h

theorem beforeChange_locks {s s' : AuditedStore} {t : Nat} {table : AuditedTable} {c : RowChange}
    (h : s.beforeChange t table c = some s') : Locks s s' t := by
  unfold AuditedStore.beforeChange at h
  split at h
  · unfold AuditedStore.guardPlan at h
    split at h
    · cases h
    · cases h
      exact Locks.refl s t
  · obtain ⟨s₁, hold, hnew⟩ := Option.bind_eq_some_iff.mp h
    exact (elim_lockPlan_locks hold).trans (elim_lockPlan_locks hnew)
  · unfold AuditedStore.guardApprovalRecord at h
    split at h
    · cases h
    · cases h
      exact Locks.refl s t
  · cases h
    exact Locks.refl s t

section Statements

variable {refuses : Refusals} {a : AuditStep} {s : AuditedStore}

theorem change_cases {table : AuditedTable} {key : List String} {c : RowChange}
    (hfree : (s.cells table key).free a.tx = true)
    (hold : (s.cells table key).visible a.tx = c.old)
    (hkeyed : (∀ row, c.old = some row → row.keyIn table.name = some key) →
      c.row.keyIn table.name = some key) :
    Outcome refuses s (s.change refuses a table key c) a.tx := by
  unfold AuditedStore.change
  cases hguard : s.beforeChange a.tx table c with
  | none => exact Or.inl (Unwritten.refl s)
  | some guarded =>
      have hlocks := beforeChange_locks hguard
      dsimp only
      split
      · exact Or.inl (Unwritten.refl s)
      · rename_i hadmitted
        split
        · exact Or.inl (Unwritten.refl s)
        · rename_i entry hentry
          obtain ⟨hrecords, hnumber⟩ := auditChange_ok hentry
          refine Or.inr (Or.inl ⟨guarded, table, key, c, entry, hguard, ?_, ?_⟩)
          · exact Bool.eq_false_iff.mpr hadmitted
          · refine ⟨hlocks.free table key hfree, ?_, hkeyed, hrecords, ?_, rfl, rfl, ?_⟩
            · rw [hlocks.unwritten.visible]
              exact hold
            · rw [hlocks.unwritten.nextSequence]
              exact ⟨by rw [hnumber]; omega, by simp only [hnumber]; omega⟩
            · rw [hlocks.unwritten.unsaved]

/-- **What a statement does**: nothing to the rows, a change that it records, or the end of its
transaction. -/
theorem execute_cases : Outcome refuses s (s.execute refuses a) a.tx := by
  unfold AuditedStore.execute
  cases a.statement with
  | setActor actor =>
      exact Or.inl ⟨fun _ _ => rfl, fun _ _ _ => rfl, fun _ _ => rfl, fun _ _ _ h => h, rfl, rfl,
        rfl⟩
  | lockRow table key =>
      dsimp only
      split
      · rename_i hlock
        rw [Bool.and_eq_true] at hlock
        exact Or.inl (unwritten_lock hlock.2)
      · exact Or.inl (Unwritten.refl s)
  | insert table row =>
      dsimp only
      split
      · exact Or.inl (Unwritten.refl s)
      · rename_i key hkey
        split
        · rename_i hok
          rw [Bool.and_eq_true, Option.isNone_iff_eq_none] at hok
          exact change_cases (c := .insert row) hok.1 hok.2 fun _ => hkey
        · exact Or.inl (Unwritten.refl s)
  | update table key assigned =>
      dsimp only
      split
      · exact Or.inl (Unwritten.refl s)
      · rename_i old hold
        split
        · rename_i hok
          rw [Bool.and_eq_true] at hok
          exact change_cases (c := .update old (old.assign assigned)) hok.1 hold fun hkey =>
            (DataDict.keyIn_assign hok.2).trans (hkey old rfl)
        · exact Or.inl (Unwritten.refl s)
  | delete table key =>
      dsimp only
      split
      · exact Or.inl (Unwritten.refl s)
      · rename_i old hold
        split
        · rename_i hok
          rw [Bool.and_eq_true] at hok
          exact change_cases (c := .delete old) hok.1 hold fun hkey => hkey old rfl
        · exact Or.inl (Unwritten.refl s)
  | alterTrail => exact Or.inl (Unwritten.refl s)
  | commit => exact Or.inr (Or.inr (Or.inl rfl))
  | rollback => exact Or.inr (Or.inr (Or.inr rfl))

end Statements

/-! ### One row

The versions of a row and the entries about it are walked together, what is committed first and
then what is not.  At each place the entry ends with the snapshot of the version, and begins with
that of the version below; so the newest committed entry shows the row as it is.
-/

/-- The entries about a row. -/
def entriesOn (table : AuditedTable) (key : List String) (l : List AuditEntry) :
    List AuditEntry :=
  l.filter fun entry => decide (entry.change.key = (table.name, some key))

section Entries

variable {table table' : AuditedTable} {key key' : List String} {entry : AuditEntry}
  {l l' : List AuditEntry}

theorem entriesOn_append :
    entriesOn table key (l ++ l') = entriesOn table key l ++ entriesOn table key l' :=
  List.filter_append _ _

theorem entriesOn_cons (h : entry.change.key = (table.name, some key)) :
    entriesOn table key (entry :: l) = entry :: entriesOn table key l :=
  List.filter_cons_of_pos (by simp [h])

theorem entriesOn_cons_of_ne (h : entry.change.key = (table.name, some key))
    (hne : ¬ (table' = table ∧ key' = key)) :
    entriesOn table' key' (entry :: l) = entriesOn table' key' l := by
  refine List.filter_cons_of_neg ?_
  rw [decide_eq_true_eq, h]
  intro heq
  simp only [Prod.mk.injEq, Option.some.injEq] at heq
  exact hne ⟨(AuditedTable.name_inj heq.1).symm, heq.2.symm⟩

end Entries

/-- What a version of a row looks like in the trail. -/
def shown (version : Option DataDict) : Option DataDict := version.map DataDict.withoutPassword

/-- **The versions of a row are what the trail has of it**: the committed ones in the trail itself,
and those of a transaction in what it has added. -/
structure RowAudited (s : AuditedStore) (table : AuditedTable) (key : List String) : Prop where
  keyed : ∀ row, some row ∈ (s.cells table key).chain → row.keyIn table.name = some key
  versions : (entriesOn table key s.trail).map (fun e => e.change.after) =
    (s.cells table key).versions.map shown
  own : ∀ t, (entriesOn table key (s.unsaved t)).map (fun e => e.change.after) =
    ((s.cells table key).own t).map shown
  follows : ∀ t, Follow ((entriesOn table key (s.unsaved t ++ s.trail)).map AuditEntry.change)
  numbers : ∀ t, (entriesOn table key (s.unsaved t ++ s.trail)).Pairwise
    fun a b => b.sequence < a.sequence

/-- No number has been drawn that is not below the next one. -/
def NumbersDrawn (s : AuditedStore) : Prop :=
  ∀ t, ∀ e ∈ s.unsaved t ++ s.trail, e.sequence < s.nextSequence

section OneRow

variable {s s' : AuditedStore} {table table' : AuditedTable} {key key' : List String}
  {t u : Nat} {c : RowChange} {entry : AuditEntry}

/-- A transaction has added nothing about a row that it has not written. -/
theorem RowAudited.none_of_own (h : RowAudited s table key)
    (hown : (s.cells table key).own t = []) : entriesOn table key (s.unsaved t) = [] := by
  have hmap := h.own t
  rw [hown, List.map_nil, List.map_eq_nil_iff] at hmap
  exact hmap

/-- The newest of some entries that show the versions of a list has its newest version. -/
theorem newest_shown {l : List AuditEntry} {versions : List (Option DataDict)}
    (h : l.map (fun e => e.change.after) = versions.map shown) :
    (l.map AuditEntry.change).head?.bind Change.after = shown versions.head?.join := by
  cases l with
  | nil =>
      rw [List.map_eq_nil_iff.mp h.symm]
      rfl
  | cons e rest =>
      cases versions with
      | nil => cases h
      | cons v older => exact (List.cons.inj h).1

/-- What the committed entries about a row are: each follows the one before it, and their numbers
rise. -/
theorem RowAudited.follows_trail (h : RowAudited s table key) :
    Follow ((entriesOn table key s.trail).map AuditEntry.change) := by
  -- any transaction will do: the trail comes after what it has added
  have hold := h.follows 0
  rw [entriesOn_append, List.map_append] at hold
  exact hold.older

theorem RowAudited.numbers_trail (h : RowAudited s table key) :
    (entriesOn table key s.trail).Pairwise fun a b => b.sequence < a.sequence := by
  have hold := h.numbers 0
  rw [entriesOn_append] at hold
  exact (List.pairwise_append.mp hold).2.1

/-- What a transaction sees of a row is what the newest entry about it has, among those of the
trail and its own. -/
theorem RowAudited.newest (h : RowAudited s table key) :
    ((entriesOn table key (s.unsaved t ++ s.trail)).map AuditEntry.change).head?.bind
      Change.after = shown ((s.cells table key).visible t) := by
  refine newest_shown ?_
  unfold Cell.view
  rw [entriesOn_append, List.map_append, List.map_append, h.own t, h.versions]

theorem RowAudited.unwritten (h : RowAudited s table key) (hq : Unwritten s s') :
    RowAudited s' table key where
  keyed := by
    rw [hq.chain]
    exact h.keyed
  versions := by
    rw [hq.trail, hq.versions]
    exact h.versions
  own t := by
    rw [hq.unsaved, hq.own]
    exact h.own t
  follows t := by
    rw [hq.unsaved, hq.trail]
    exact h.follows t
  numbers t := by
    rw [hq.unsaved, hq.trail]
    exact h.numbers t

theorem RowChange.row_of_new {row : DataDict} (h : c.new = some row) : c.row = row := by
  cases c with
  | insert new => exact Option.some.inj h
  | update old new => exact Option.some.inj h
  | delete old => cases h

/-- Who finds a row free, nobody else has written on it. -/
theorem own_of_free_other {cell : Cell Nat DataDict} (hfree : cell.free t = true) (hne : u ≠ t) :
    cell.own u = [] := by
  refine Cell.own_eq_nil_of_not_locked ?_
  rintro ⟨vs, hvs⟩
  simp only [Cell.free, hvs, decide_eq_true_eq] at hfree
  exact hne hfree

theorem Changes.entry_key (hc : Changes s s' t table key c entry) (h : RowAudited s table key) :
    c.row.keyIn table.name = some key ∧ entry.change.key = (table.name, some key) := by
  have hkey : c.row.keyIn table.name = some key := by
    refine hc.keyed fun row hrow => h.keyed row ?_
    rw [← hc.old] at hrow
    exact Cell.mem_chain_of_view (Cell.visible_mem hrow)
  exact ⟨hkey, hc.records.key_eq hkey⟩

theorem Changes.unsaved_self (hc : Changes s s' t table key c entry) :
    s'.unsaved t = entry :: s.unsaved t := by
  rw [hc.unsaved, Function.update_self]

theorem Changes.unsaved_other (hc : Changes s s' t table key c entry) (hne : u ≠ t) :
    s'.unsaved u = s.unsaved u := by
  rw [hc.unsaved, Function.update_of_ne hne]

theorem Changes.cell_same (hc : Changes s s' t table key c entry) :
    s'.cells table key = (s.cells table key).write t c.new := by
  rw [hc.cells, update_cells]
  exact if_pos ⟨rfl, rfl⟩

theorem Changes.cell_other (hc : Changes s s' t table key c entry)
    (hne : ¬ (table' = table ∧ key' = key)) : s'.cells table' key' = s.cells table' key' := by
  rw [hc.cells, update_cells]
  exact if_neg hne

/-- A change, on its own row. -/
theorem RowAudited.changed (h : RowAudited s table key) (hc : Changes s s' t table key c entry)
    (hnumbered : NumbersDrawn s) : RowAudited s' table key := by
  obtain ⟨hkey, hentry⟩ := hc.entry_key h
  have hcell := hc.cell_same
  have hothers : ∀ u, u ≠ t → entriesOn table key (s'.unsaved u ++ s'.trail) =
      entriesOn table key s.trail := by
    intro u hne
    rw [hc.unsaved_other hne, hc.trail, entriesOn_append,
      h.none_of_own (own_of_free_other hc.free hne), List.nil_append]
  have hself : entriesOn table key (s'.unsaved t ++ s'.trail) =
      entry :: entriesOn table key (s.unsaved t ++ s.trail) := by
    rw [hc.unsaved_self, hc.trail, List.cons_append, entriesOn_cons hentry]
  refine ⟨?_, ?_, ?_, ?_, ?_⟩
  · intro row hrow
    rw [hcell, Cell.chain_eq_view (Cell.locked_free (Cell.locked_write _))] at hrow
    unfold Cell.view at hrow
    rw [Cell.own_write, Cell.write_versions, List.cons_append] at hrow
    rcases List.mem_cons.mp hrow with hnew | hold
    · rw [← RowChange.row_of_new hnew.symm]
      exact hkey
    · exact h.keyed row (Cell.mem_chain_of_view hold)
  · rw [hc.trail, hcell, Cell.write_versions]
    exact h.versions
  · intro u
    by_cases hu : u = t
    · subst hu
      rw [hc.unsaved_self, entriesOn_cons hentry, hcell, Cell.own_write, List.map_cons,
        List.map_cons, h.own u, hc.records.after_eq]
      rfl
    · have hstep : Cell.Step (fun _ _ => True) t (s.cells table key)
          ((s.cells table key).write t c.new) := .write _ _ hc.free trivial
      rw [hc.unsaved_other hu, hcell, hstep.own_eq (Ne.symm hu)]
      exact h.own u
  · intro u
    by_cases hu : u = t
    · subst hu
      rw [hself, List.map_cons]
      refine ⟨?_, h.follows u⟩
      rw [hc.records.before_eq, h.newest, hc.old]
      rfl
    · rw [hothers u hu]
      exact h.follows_trail
  · intro u
    by_cases hu : u = t
    · subst hu
      rw [hself]
      refine List.pairwise_cons.mpr ⟨?_, h.numbers u⟩
      intro e he
      have hlt := hnumbered u e (List.mem_filter.mp he).1
      have hge := hc.number.1
      omega
    · rw [hothers u hu]
      exact h.numbers_trail

/-- A change of another row. -/
theorem RowAudited.beside (h : RowAudited s table' key') (hrow : RowAudited s table key)
    (hc : Changes s s' t table key c entry) (hne : ¬ (table' = table ∧ key' = key)) :
    RowAudited s' table' key' := by
  obtain ⟨-, hentry⟩ := hc.entry_key hrow
  have hcell := hc.cell_other hne
  have hunsaved : ∀ u l, entriesOn table' key' (s'.unsaved u ++ l) =
      entriesOn table' key' (s.unsaved u ++ l) := by
    intro u l
    by_cases hu : u = t
    · subst hu
      rw [hc.unsaved_self, List.cons_append, entriesOn_cons_of_ne hentry hne]
    · rw [hc.unsaved_other hu]
  refine ⟨?_, ?_, ?_, ?_, ?_⟩
  · rw [hcell]
    exact h.keyed
  · rw [hc.trail, hcell]
    exact h.versions
  · intro u
    have hsame := hunsaved u []
    rw [List.append_nil, List.append_nil] at hsame
    rw [hsame, hcell]
    exact h.own u
  · intro u
    rw [hc.trail, hunsaved]
    exact h.follows u
  · intro u
    rw [hc.trail, hunsaved]
    exact h.numbers u

/-- Only one transaction at a time has written on a row. -/
theorem RowAudited.one_writer (h : RowAudited s table key) (hne : u ≠ t) :
    entriesOn table key (s.unsaved u) = [] ∨ entriesOn table key (s.unsaved t) = [] := by
  by_cases hl : (s.cells table key).locked t
  · exact Or.inl (h.none_of_own
      (Cell.own_eq_nil_of_not_locked (Cell.not_locked_of_locked hne hl)))
  · exact Or.inr (h.none_of_own (Cell.own_eq_nil_of_not_locked hl))

theorem finish_unsaved_self {settle : Cell Nat DataDict → Cell Nat DataDict}
    {saved : List AuditEntry} : (s.finish t settle saved).unsaved t = [] :=
  Function.update_self _ _ _

theorem finish_unsaved_other {settle : Cell Nat DataDict → Cell Nat DataDict}
    {saved : List AuditEntry} (hne : u ≠ t) :
    (s.finish t settle saved).unsaved u = s.unsaved u :=
  Function.update_of_ne hne _ _

theorem RowAudited.commit (h : RowAudited s table key) :
    RowAudited (s.finish t (Cell.commit t) (s.unsaved t)) table key := by
  have hread : ∀ u, ∃ v, entriesOn table key
      ((s.finish t (Cell.commit t) (s.unsaved t)).unsaved u ++ (s.unsaved t ++ s.trail)) =
        entriesOn table key (s.unsaved v ++ s.trail) := by
    intro u
    by_cases hu : u = t
    · subst hu
      refine ⟨u, ?_⟩
      rw [finish_unsaved_self, List.nil_append]
    · rw [finish_unsaved_other hu]
      rcases h.one_writer hu with hnone | hnone
      · refine ⟨t, ?_⟩
        rw [entriesOn_append, hnone, List.nil_append]
      · refine ⟨u, ?_⟩
        rw [entriesOn_append, entriesOn_append, hnone, List.nil_append, ← entriesOn_append]
  refine ⟨?_, ?_, ?_, ?_, ?_⟩
  · intro row hrow
    refine h.keyed row ?_
    rw [← Cell.chain_commit (t := t)]
    exact hrow
  · show (entriesOn table key (s.unsaved t ++ s.trail)).map (fun e => e.change.after) =
      ((s.cells table key).commit t).versions.map shown
    rw [Cell.commit_versions, entriesOn_append, List.map_append, h.own t, h.versions,
      ← List.map_append]
    rfl
  · intro u
    show _ = (((s.cells table key).commit t).own u).map shown
    by_cases hu : u = t
    · subst hu
      rw [finish_unsaved_self, Cell.own_commit_self]
      rfl
    · have hstep : Cell.Step (fun _ _ => True) t (s.cells table key)
          ((s.cells table key).commit t) := .commit _
      rw [finish_unsaved_other hu, hstep.own_eq (Ne.symm hu)]
      exact h.own u
  · intro u
    obtain ⟨v, hv⟩ := hread u
    show Follow ((entriesOn table key (_ ++ (s.unsaved t ++ s.trail))).map AuditEntry.change)
    rw [hv]
    exact h.follows v
  · intro u
    obtain ⟨v, hv⟩ := hread u
    show (entriesOn table key (_ ++ (s.unsaved t ++ s.trail))).Pairwise _
    rw [hv]
    exact h.numbers v

theorem RowAudited.rollback (h : RowAudited s table key) :
    RowAudited (s.finish t (Cell.rollback t) []) table key := by
  refine ⟨?_, ?_, ?_, ?_, ?_⟩
  · intro row hrow
    exact h.keyed row (Cell.chain_rollback_suffix.mem hrow)
  · show (entriesOn table key s.trail).map (fun e => e.change.after) =
      ((s.cells table key).rollback t).versions.map shown
    rw [Cell.rollback_versions]
    exact h.versions
  · intro u
    show _ = (((s.cells table key).rollback t).own u).map shown
    by_cases hu : u = t
    · subst hu
      rw [finish_unsaved_self, Cell.own_rollback_self]
      rfl
    · have hstep : Cell.Step (fun _ _ => True) t (s.cells table key)
          ((s.cells table key).rollback t) := .rollback _
      rw [finish_unsaved_other hu, hstep.own_eq (Ne.symm hu)]
      exact h.own u
  · intro u
    show Follow ((entriesOn table key (_ ++ s.trail)).map AuditEntry.change)
    by_cases hu : u = t
    · subst hu
      rw [finish_unsaved_self]
      exact h.follows_trail
    · rw [finish_unsaved_other hu]
      exact h.follows u
  · intro u
    show (entriesOn table key (_ ++ s.trail)).Pairwise _
    by_cases hu : u = t
    · subst hu
      rw [finish_unsaved_self]
      exact h.numbers_trail
    · rw [finish_unsaved_other hu]
      exact h.numbers u

end OneRow

/-! ### All of them -/

structure Audited (s : AuditedStore) : Prop where
  rows : ∀ table key, RowAudited s table key
  numbered : NumbersDrawn s

theorem audited_init : Audited {} := by
  refine ⟨?_, ?_⟩
  · intro table key
    refine ⟨?_, rfl, fun _ => rfl, fun _ => trivial, fun _ => List.Pairwise.nil⟩
    intro row hrow
    exact absurd hrow List.not_mem_nil
  · intro t e he
    exact absurd he List.not_mem_nil

section Run

variable {refuses : Refusals} {a : AuditStep} {s : AuditedStore}

theorem NumbersDrawn.changed {s' : AuditedStore} {t : Nat} {table : AuditedTable}
    {key : List String} {c : RowChange} {entry : AuditEntry} (h : NumbersDrawn s)
    (hc : Changes s s' t table key c entry) : NumbersDrawn s' := by
  intro u e he
  have hnumber := hc.number
  have hold : ∀ v, e ∈ s.unsaved v ++ s.trail → e.sequence < s'.nextSequence := by
    intro v hv
    have hlt := h v e hv
    omega
  by_cases hu : u = t
  · subst hu
    rw [hc.unsaved_self, hc.trail, List.cons_append] at he
    rcases List.mem_cons.mp he with rfl | he
    · omega
    · exact hold u he
  · rw [hc.unsaved_other hu, hc.trail] at he
    exact hold u he

theorem NumbersDrawn.finish {t : Nat} {settle : Cell Nat DataDict → Cell Nat DataDict}
    {saved : List AuditEntry} (h : NumbersDrawn s) (hsaved : saved ⊆ s.unsaved t) :
    NumbersDrawn (s.finish t settle saved) := by
  intro u e he
  have hstay : e ∈ saved ++ s.trail → e.sequence < s.nextSequence := by
    intro hmem
    rcases List.mem_append.mp hmem with hmem | hmem
    · exact h t e (List.mem_append_left _ (hsaved hmem))
    · exact h t e (List.mem_append_right _ hmem)
  rcases List.mem_append.mp he with he | he
  · by_cases hu : u = t
    · subst hu
      rw [finish_unsaved_self] at he
      exact absurd he List.not_mem_nil
    · rw [finish_unsaved_other hu] at he
      exact h u e (List.mem_append_left _ he)
  · exact hstay he

theorem Audited.unwritten {s' : AuditedStore} (h : Audited s) (hq : Unwritten s s') :
    Audited s' := by
  refine ⟨fun table key => (h.rows table key).unwritten hq, ?_⟩
  intro t e he
  rw [hq.unsaved, hq.trail] at he
  rw [hq.nextSequence]
  exact h.numbered t e he

/-- **Every statement** leaves the trail in step with the tables. -/
theorem Audited.execute (h : Audited s) : Audited (s.execute refuses a) := by
  have hcases : Outcome refuses s (s.execute refuses a) a.tx := execute_cases
  rcases hcases with hq | ⟨guarded, table, key, c, entry, hguard, -, hc⟩ | heq | heq
  · exact h.unwritten hq
  · have h := h.unwritten (beforeChange_locks hguard).unwritten
    refine ⟨fun table' key' => ?_, h.numbered.changed hc⟩
    by_cases hsame : table' = table ∧ key' = key
    · obtain ⟨rfl, rfl⟩ := hsame
      exact (h.rows table' key').changed hc h.numbered
    · exact (h.rows table' key').beside (h.rows table key) hc hsame
  · rw [heq]
    exact ⟨fun table key => (h.rows table key).commit,
      h.numbered.finish (List.Subset.refl _)⟩
  · rw [heq]
    exact ⟨fun table key => (h.rows table key).rollback, h.numbered.finish (List.nil_subset _)⟩

theorem Audited.runs (h : Audited s) (steps : List AuditStep) :
    Audited (s.runs refuses steps) := by
  induction steps generalizing s with
  | nil => exact h
  | cons a rest ih => exact ih h.execute

end Run

/-- **The trail tells what the tables are.**  After any statements of any transactions, the trail
replayed in the order of its numbers gives each row as it is committed, but for a password; and each
entry about the row begins with what the one before it ended with. -/
theorem audit_trail_replays (refuses : Refusals) (steps : List AuditStep) (table : AuditedTable)
    (key : List String) :
    replay ((AuditedStore.runs refuses {} steps).readTrail.map AuditEntry.change)
        (table.name, some key) =
      ((AuditedStore.runs refuses {} steps).cells table key).committed.map
        DataDict.withoutPassword ∧
    Follow (changesTo (table.name, some key)
      ((AuditedStore.runs refuses {} steps).readTrail.map AuditEntry.change)).reverse := by
  have hrow : RowAudited (AuditedStore.runs refuses {} steps) table key :=
    (audited_init.runs steps).rows table key
  generalize AuditedStore.runs refuses {} steps = s at hrow ⊢
  have hfall := hrow.numbers_trail
  unfold AuditedStore.readTrail
  refine ⟨?_, ?_⟩
  · rw [replay_inOrder AuditEntry.sequence AuditEntry.change hfall]
    exact newest_shown hrow.versions
  · rw [changesTo_inOrder AuditEntry.sequence AuditEntry.change hfall, List.reverse_reverse]
    exact hrow.follows_trail

end SelfHealing
