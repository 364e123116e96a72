/-
What the audit trail answers for.

Nothing is taken from the trail, and no row changes without an entry that says who changed it.  An
entry names the incident that it belongs to, and the trail refers to the table of incidents: that an
incident cannot be deleted follows, since the entry about its end would name an incident that is not
there (`Accounted.kept`).

What a row is without an entry is not read off the entries, which leave out passwords.  There is one
entry for each version of a row, and versions are only ever added: so a row about which nothing has
been added has the versions that it had, and is what it was (`versions_eq_of_none`).
-/
import SelfHealing.Proofs.AuditTrail

namespace SelfHealing

open ChangeLog ReadCommitted

/-! ### What is to hold -/

/-- What can be asked of an entry of the trail: that it names who made the change, shows no
password, and belongs to an incident that is there, if to any. -/
structure AuditEntry.Answers (entry : AuditEntry) (s : AuditedStore) : Prop where
  actor : blankActor entry.actor = false ∧ entry.actor.length ≤ 128
  secret : ∀ row, entry.change.before = some row ∨ entry.change.after = some row →
    ∀ column ∈ row, column.1 ≠ "password_hash"
  incident : ∀ id, entry.incidentId = some id →
    (s.cells .incidents [id]).committed.isSome = true

/-- Between one state and a later one, entries have been added to the trail, one at least for every
row that is not as it was, be it only in what an entry does not show, and no incident has gone. -/
structure AccountsFor (s s' : AuditedStore) (added : List AuditEntry) : Prop where
  trail : s'.trail = added ++ s.trail
  changed : ∀ table key,
    (s'.cells table key).committed ≠ (s.cells table key).committed →
    ∃ entry ∈ added, entry.change.key = (table.name, some key)
  incidents : ∀ id, (s.cells .incidents [id]).committed.isSome = true →
    (s'.cells .incidents [id]).committed.isSome = true

/-! ### Entries and incidents

The foreign key is looked at when an entry is written, and what matters is that it holds later too.
Whoever deletes an incident adds an entry about its end, and this entry would name a row that is
not there any more: so the trigger that writes the trail keeps incidents from being deleted.
-/

theorem withoutPassword_column {row : DataDict} :
    ∀ column ∈ row.withoutPassword, column.1 ≠ "password_hash" := by
  intro column hcolumn
  exact of_decide_eq_true (List.mem_filter.mp hcolumn).2

theorem AuditEntry.Records.secret {entry : AuditEntry} {table : AuditedTable} {view : RowView}
    {c : RowChange} (h : entry.Records table view c) (row : DataDict)
    (hrow : entry.change.before = some row ∨ entry.change.after = some row) :
    ∀ column ∈ row, column.1 ≠ "password_hash" := by
  have hmap : ∀ image : Option DataDict, image.map DataDict.withoutPassword = some row →
      ∀ column ∈ row, column.1 ≠ "password_hash" := by
    intro image himage
    obtain ⟨full, -, rfl⟩ := Option.map_eq_some_iff.mp himage
    exact withoutPassword_column
  rcases hrow with hrow | hrow
  · rw [h.before_eq] at hrow
    exact hmap _ hrow
  · rw [h.after_eq] at hrow
    exact hmap _ hrow

section Steps

variable {refuses : Refusals} {a : AuditStep} {s s' : AuditedStore} {table : AuditedTable}
  {key : List String} {t u : Nat} {c : RowChange} {entry : AuditEntry} {id : String}

/-- The key of an incident is its identifier. -/
theorem identifier_of_key {row : DataDict}
    (h : row.keyIn AuditedTable.incidents.name = some [id]) : row.identifier "id" = some id := by
  have hcolumns : keyColumns AuditedTable.incidents.name = ["id"] := by decide
  unfold DataDict.keyIn at h
  rw [hcolumns, List.mapM_cons, List.mapM_nil] at h
  cases hid : row.identifier "id" with
  | none =>
      rw [hid] at h
      cases h
  | some found =>
      rw [hid] at h
      cases h
      rfl

/-- **No incident is deleted**: the entry about it would have nothing to refer to. -/
theorem Changes.not_deleted (hc : Changes s s' t .incidents [id] c entry)
    (h : RowAudited s .incidents [id]) : c.new ≠ none := by
  intro hnew
  have hincident : entry.incidentId = some id := by
    rw [hc.records.incidentId rfl]
    exact identifier_of_key (hc.entry_key h).1
  have hknown := hc.records.known id hincident
  have hgone : s'.view t .incidents [id] = none := by
    show (s'.cells .incidents [id]).visible t = none
    rw [hc.cell_same, Cell.visible_write, hnew]
  rw [hgone] at hknown
  cases hknown

theorem Changes.cell (hc : Changes s s' t table key c entry) (table' : AuditedTable)
    (key' : List String) : Cell.Step (fun _ _ => True) t (s.cells table' key')
      (s'.cells table' key') := by
  rw [hc.cells, update_cells]
  split
  · rename_i heq
    obtain ⟨rfl, rfl⟩ := heq
    exact .write _ _ hc.free trivial
  · exact .same _

/-- What a transaction sees of a row that somebody else changes. -/
theorem view_ne_nil {cell cell' : Cell Nat DataDict} (hne : u ≠ t)
    (hstep : Cell.Step (fun _ _ => True) t cell cell') (h : cell.view u ≠ []) :
    cell'.view u ≠ [] := by
  obtain ⟨v, hv⟩ := List.exists_mem_of_ne_nil _ h
  exact List.ne_nil_of_mem (hstep.mem_view (Ne.symm hne) hv)

theorem view_ne_nil_of_visible {cell : Cell Nat DataDict}
    (h : (cell.visible t).isSome = true) : cell.view t ≠ [] := by
  intro hnil
  unfold Cell.visible at h
  rw [hnil] at h
  cases h

/-- What holds of the incidents and of all entries, those not yet committed among them. -/
structure Accounted (s : AuditedStore) : Prop where
  kept : ∀ id, none ∉ (s.cells .incidents [id]).chain
  actor : ∀ t, ∀ e ∈ s.unsaved t ++ s.trail, blankActor e.actor = false ∧ e.actor.length ≤ 128
  secret : ∀ t, ∀ e ∈ s.unsaved t ++ s.trail, ∀ row,
    e.change.before = some row ∨ e.change.after = some row →
    ∀ column ∈ row, column.1 ≠ "password_hash"
  saved : ∀ e ∈ s.trail, ∀ id, e.incidentId = some id →
    (s.cells .incidents [id]).versions ≠ []
  unsaved : ∀ t, ∀ e ∈ s.unsaved t, ∀ id, e.incidentId = some id →
    (s.cells .incidents [id]).view t ≠ []

theorem accounted_init : Accounted {} := by
  refine ⟨fun _ => List.not_mem_nil, ?_, ?_, ?_, ?_⟩
  · intro t e he
    exact absurd he List.not_mem_nil
  · intro t e he
    exact absurd he List.not_mem_nil
  · intro e he
    exact absurd he List.not_mem_nil
  · intro t e he
    exact absurd he List.not_mem_nil

theorem Accounted.unwritten (h : Accounted s) (hq : Unwritten s s') : Accounted s' := by
  refine ⟨?_, ?_, ?_, ?_, ?_⟩
  · intro id
    rw [hq.chain]
    exact h.kept id
  · rw [hq.unsaved, hq.trail]
    exact h.actor
  · rw [hq.unsaved, hq.trail]
    exact h.secret
  · intro e he id hid
    rw [hq.trail] at he
    rw [hq.versions]
    exact h.saved e he id hid
  · intro t e he id hid
    rw [hq.unsaved] at he
    unfold Cell.view
    rw [hq.own, hq.versions]
    exact h.unsaved t e he id hid

/-- An entry of a state after a change is an old one or the new one. -/
theorem Changes.mem_entries (hc : Changes s s' t table key c entry) {e : AuditEntry}
    (he : e ∈ s'.unsaved u ++ s'.trail) : e ∈ s.unsaved u ++ s.trail ∨ u = t ∧ e = entry := by
  by_cases hu : u = t
  · subst hu
    rw [hc.unsaved_self, hc.trail, List.cons_append] at he
    rcases List.mem_cons.mp he with rfl | he
    · exact Or.inr ⟨rfl, rfl⟩
    · exact Or.inl he
  · rw [hc.unsaved_other hu, hc.trail] at he
    exact Or.inl he

theorem Accounted.changed (h : Accounted s) (hc : Changes s s' t table key c entry)
    (hrow : RowAudited s table key) : Accounted s' := by
  refine ⟨?_, ?_, ?_, ?_, ?_⟩
  · intro id hnone
    rw [hc.cells, update_cells] at hnone
    split at hnone
    · rename_i heq
      obtain ⟨rfl, rfl⟩ := heq
      rw [Cell.chain_eq_view (Cell.locked_free (Cell.locked_write _))] at hnone
      unfold Cell.view at hnone
      rw [Cell.own_write, Cell.write_versions, List.cons_append] at hnone
      rcases List.mem_cons.mp hnone with hnew | hold
      · exact hc.not_deleted hrow hnew.symm
      · exact h.kept id (Cell.mem_chain_of_view hold)
    · exact h.kept id hnone
  · intro u e he
    rcases hc.mem_entries he with he | ⟨-, rfl⟩
    · exact h.actor u e he
    · exact hc.records.actor
  · intro u e he
    rcases hc.mem_entries he with he | ⟨-, rfl⟩
    · exact h.secret u e he
    · exact hc.records.secret
  · intro e he id hid
    rw [hc.trail] at he
    intro hnil
    have hsuffix := (hc.cell .incidents [id]).versions_suffix
    rw [hnil, List.suffix_nil] at hsuffix
    exact h.saved e he id hid hsuffix
  · intro u e he id hid
    by_cases hu : u = t
    · subst hu
      rw [hc.unsaved_self] at he
      rcases List.mem_cons.mp he with rfl | he
      · exact view_ne_nil_of_visible (hc.records.known id hid)
      · have hold := h.unsaved u e he id hid
        rw [hc.cells, update_cells]
        split
        · rename_i heq
          obtain ⟨rfl, rfl⟩ := heq
          unfold Cell.view
          rw [Cell.own_write, List.cons_append]
          exact List.cons_ne_nil _ _
        · exact hold
    · rw [hc.unsaved_other hu] at he
      exact view_ne_nil hu (hc.cell .incidents [id]) (h.unsaved u e he id hid)

/-- The end of a transaction, committed or undone. -/
theorem Accounted.finish (h : Accounted s) {settle : Cell Nat DataDict → Cell Nat DataDict}
    {saved : List AuditEntry}
    (hstep : ∀ cell : Cell Nat DataDict, Cell.Step (fun _ _ => True) t cell (settle cell))
    (hchain : ∀ cell : Cell Nat DataDict, (settle cell).chain ⊆ cell.chain)
    (hsub : saved ⊆ s.unsaved t)
    (hsaved : ∀ e ∈ saved, ∀ cell : Cell Nat DataDict, (settle cell).versions = cell.view t) :
    Accounted (s.finish t settle saved) := by
  have hentries : ∀ u, ∀ e ∈ (s.finish t settle saved).unsaved u ++ (saved ++ s.trail),
      ∃ v, e ∈ s.unsaved v ++ s.trail := by
    intro u e he
    rcases List.mem_append.mp he with he | he
    · by_cases hu : u = t
      · subst hu
        rw [finish_unsaved_self] at he
        exact absurd he List.not_mem_nil
      · rw [finish_unsaved_other hu] at he
        exact ⟨u, List.mem_append_left _ he⟩
    · rcases List.mem_append.mp he with he | he
      · exact ⟨t, List.mem_append_left _ (hsub he)⟩
      · exact ⟨t, List.mem_append_right _ he⟩
  refine ⟨?_, ?_, ?_, ?_, ?_⟩
  · intro id hnone
    exact h.kept id (hchain _ hnone)
  · intro u e he
    obtain ⟨v, hv⟩ := hentries u e he
    exact h.actor v e hv
  · intro u e he
    obtain ⟨v, hv⟩ := hentries u e he
    exact h.secret v e hv
  · intro e he id hid
    show (settle (s.cells .incidents [id])).versions ≠ []
    rcases List.mem_append.mp he with he | he
    · rw [hsaved e he]
      exact h.unsaved t e (hsub he) id hid
    · intro hnil
      have hsuffix := (hstep (s.cells .incidents [id])).versions_suffix
      rw [hnil, List.suffix_nil] at hsuffix
      exact h.saved e he id hid hsuffix
  · intro u e he id hid
    by_cases hu : u = t
    · subst hu
      rw [finish_unsaved_self] at he
      exact absurd he List.not_mem_nil
    · rw [finish_unsaved_other hu] at he
      exact view_ne_nil hu (hstep _) (h.unsaved u e he id hid)

theorem Accounted.execute (h : Accounted s) (haudited : Audited s) :
    Accounted (s.execute refuses a) := by
  have hcases : Outcome refuses s (s.execute refuses a) a.tx := execute_cases
  rcases hcases with hq | ⟨guarded, table, key, c, entry, hguard, -, hc⟩ | heq | heq
  · exact h.unwritten hq
  · have hlocks := (beforeChange_locks hguard).unwritten
    exact (h.unwritten hlocks).changed hc ((haudited.unwritten hlocks).rows table key)
  · rw [heq]
    refine h.finish (fun cell => .commit cell) (fun cell => ?_) (List.Subset.refl _)
      (fun _ _ _ => Cell.commit_versions)
    rw [Cell.chain_commit]
    exact List.Subset.refl _
  · rw [heq]
    refine h.finish (fun cell => .rollback cell) (fun _ => Cell.chain_rollback_suffix.subset)
      (List.nil_subset _) (fun _ he => absurd he List.not_mem_nil)

theorem Accounted.runs (h : Accounted s) (haudited : Audited s) (steps : List AuditStep) :
    Accounted (s.runs refuses steps) := by
  induction steps generalizing s with
  | nil => exact h
  | cons a rest ih => exact ih (h.execute haudited) haudited.execute

/-! ### From one state to a later one -/

theorem versions_grow (table : AuditedTable) (key : List String) :
    (s.cells table key).versions <:+ ((s.execute refuses a).cells table key).versions := by
  have hcases : Outcome refuses s (s.execute refuses a) a.tx := execute_cases
  rcases hcases with hq | ⟨guarded, table', key', c, entry, hguard, -, hc⟩ | heq | heq
  · rw [hq.versions]
  · rw [← (beforeChange_locks hguard).unwritten.versions]
    exact (hc.cell table key).versions_suffix
  · rw [heq]
    exact (Cell.Step.commit (W := fun _ _ => True) (t := a.tx) _).versions_suffix
  · rw [heq]
    exact (Cell.Step.rollback (W := fun _ _ => True) (t := a.tx) _).versions_suffix

theorem trail_grows : s.trail <:+ (s.execute refuses a).trail := by
  have hcases : Outcome refuses s (s.execute refuses a) a.tx := execute_cases
  rcases hcases with hq | ⟨guarded, table, key, c, entry, hguard, -, hc⟩ | heq | heq
  · rw [hq.trail]
  · rw [hc.trail, (beforeChange_locks hguard).unwritten.trail]
  · rw [heq]
    exact List.suffix_append _ _
  · rw [heq]
    exact List.suffix_rfl

theorem runs_grow (steps : List AuditStep) :
    s.trail <:+ (s.runs refuses steps).trail ∧
      ∀ table key, (s.cells table key).versions <:+
        ((s.runs refuses steps).cells table key).versions := by
  induction steps generalizing s with
  | nil => exact ⟨List.suffix_rfl, fun _ _ => List.suffix_rfl⟩
  | cons a rest ih =>
      obtain ⟨htrail, hversions⟩ := ih (s := s.execute refuses a)
      exact ⟨trail_grows.trans htrail, fun table key =>
        (versions_grow table key).trans (hversions table key)⟩

/-- An incident with a version is there. -/
theorem Accounted.committed (h : Accounted s)
    (hversions : (s.cells .incidents [id]).versions ≠ []) :
    (s.cells .incidents [id]).committed.isSome = true := by
  unfold Cell.committed
  cases hlist : (s.cells .incidents [id]).versions with
  | nil => exact absurd hlist hversions
  | cons v older =>
      cases v with
      | some row => rfl
      | none =>
          refine absurd ?_ (h.kept id)
          refine (Cell.versions_suffix_chain _).mem ?_
          rw [hlist]
          exact List.mem_cons_self

/-- A row without a new entry has no new version: the trail has one entry for each. -/
theorem versions_eq_of_none {added : List AuditEntry} (h : RowAudited s table key)
    (h' : RowAudited s' table key) (htrail : s'.trail = added ++ s.trail)
    (hgrow : (s.cells table key).versions <:+ (s'.cells table key).versions)
    (hnone : entriesOn table key added = []) :
    (s'.cells table key).versions = (s.cells table key).versions := by
  have hlength : (entriesOn table key s.trail).length = (s.cells table key).versions.length := by
    simpa using congrArg List.length h.versions
  have hlength' : (entriesOn table key s'.trail).length =
      (s'.cells table key).versions.length := by
    simpa using congrArg List.length h'.versions
  rw [htrail, entriesOn_append, hnone, List.nil_append, hlength] at hlength'
  exact (hgrow.eq_of_length hlength').symm

end Steps

/-- **The trail accounts for every change.**  After any statements of any transactions each of its
entries answers for itself, and what further statements do to the rows is in entries that they add
to it. -/
theorem audit_trail_accounts (refuses : Refusals) (steps later : List AuditStep) :
    (∀ entry ∈ (AuditedStore.runs refuses {} steps).trail,
      entry.Answers (AuditedStore.runs refuses {} steps)) ∧
    ∃ added, AccountsFor (AuditedStore.runs refuses {} steps)
      ((AuditedStore.runs refuses {} steps).runs refuses later) added := by
  have haudited : Audited (AuditedStore.runs refuses {} steps) := audited_init.runs steps
  have haccounted : Accounted (AuditedStore.runs refuses {} steps) :=
    accounted_init.runs audited_init steps
  generalize AuditedStore.runs refuses {} steps = s at haudited haccounted ⊢
  have haudited' : Audited (s.runs refuses later) := haudited.runs later
  have haccounted' : Accounted (s.runs refuses later) := haccounted.runs haudited later
  have hgrow : s.trail <:+ (s.runs refuses later).trail ∧ ∀ table key,
      (s.cells table key).versions <:+ ((s.runs refuses later).cells table key).versions :=
    runs_grow later
  obtain ⟨⟨added, hadded⟩, hversions⟩ := hgrow
  refine ⟨?_, added, hadded.symm, ?_, ?_⟩
  · intro entry hentry
    have hmem : entry ∈ s.unsaved 0 ++ s.trail := List.mem_append_right _ hentry
    refine ⟨haccounted.actor 0 entry hmem, haccounted.secret 0 entry hmem, ?_⟩
    intro id hid
    exact haccounted.committed (haccounted.saved entry hentry id hid)
  · intro table key hne
    by_contra hnone
    have hadded' : entriesOn table key added = [] := by
      refine List.filter_eq_nil_iff.mpr fun entry hentry hkey => hnone ⟨entry, hentry, ?_⟩
      exact of_decide_eq_true hkey
    refine hne ?_
    unfold Cell.committed
    rw [versions_eq_of_none (haudited.rows table key) (haudited'.rows table key) hadded.symm
      (hversions table key) hadded']
  · intro id hid
    refine haccounted'.committed ?_
    have hold : (s.cells .incidents [id]).versions ≠ [] := by
      intro hnil
      unfold Cell.committed at hid
      rw [hnil] at hid
      cases hid
    intro hnil
    have hsuffix := hversions .incidents [id]
    rw [hnil, List.suffix_nil] at hsuffix
    exact hold hsuffix

end SelfHealing
