/-
The pages of the timeline are the timeline.

A request reads a page of the entries of its incident (`timeline_eq`), as redaction leaves the
number of an entry as it is (`row_sequence`).  So following the cursor is following the pages of a
table that only grows at its upper end.

Entries may be added while the reader is on the way; they have greater numbers than all that are
there, and a reader who goes down from the newest does not come to see them.  What was there when
the reader began is seen once and in its order.
-/
import SelfHealing.Timeline

namespace SelfHealing

open Masking Paging

/-! ### One page -/

/-- Redaction does not touch the number of an entry. -/
theorem row_sequence (alnum : Char → Bool) (entry : AuditEntry) :
    ((dictOf (row alnum entry.columns)).bind fun item => DataDict.get? item "sequence") =
      some (.atom (.int entry.sequence)) := by
  have hshown : isSensitiveKey "sequence" = false := by decide
  have hnames : (entry.columns.map fun column => (eventMask id alnum).rename column.1).Nodup := by
    simp [AuditEntry.columns, eventMask]
  have hcolumn : ("sequence", Canonical.Tree.atom (DataAtom.int entry.sequence)) ∈ entry.columns := by
    simp [AuditEntry.columns]
  have hmasked : ((eventMask id alnum).entry ("sequence", .atom (.int entry.sequence))).2 =
      .atom (.int entry.sequence) := by
    simp [Mask.entry, eventMask, hshown, Mask.apply, DataAtom.redact]
  rw [← hmasked]
  exact lookup_applyEntries hnames hcolumn

theorem olderThan_eq {before : Option Int} (hbefore : ∀ c ∈ before, 0 < c)
    (stmt : List AuditEntry) : olderThan before stmt = below AuditEntry.sequence before stmt := by
  cases before with
  | none => exact (List.filter_eq_self.mpr fun _ _ => rfl).symm
  | some c =>
      have hc : c ≠ 0 := (hbefore c rfl).ne'
      unfold olderThan
      simp only [if_pos hc]
      rfl

/-- **A request reads a page of the entries of the incident.** -/
theorem timeline_eq (alnum : Char → Bool) (table : List AuditEntry) (incidentId : String)
    {before : Option Int} {limit : Nat} (hbefore : ∀ c ∈ before, 0 < c)
    (hlimit : 1 ≤ limit ∧ limit ≤ 100) :
    timeline alnum table incidentId before limit =
      some
        { items := (page AuditEntry.sequence (entriesOf incidentId table) before limit).items.map
            fun entry => row alnum entry.columns
          nextCursor := (page AuditEntry.sequence (entriesOf incidentId table) before
            limit).nextCursor.map fun c => .atom (.int c) } := by
  have hvalid : (before.all fun before => decide (0 < before)) = true := by
    cases before with
    | none => rfl
    | some c => simpa using hbefore c rfl
  unfold timeline page
  rw [hvalid, decide_eq_true hlimit, Bool.and_self, if_pos rfl, olderThan_eq hbefore]
  dsimp only
  generalize (descending AuditEntry.sequence
    (below AuditEntry.sequence before (entriesOf incidentId table))).take (limit + 1) = found
  simp only [List.length_map, List.map_take, List.getElem?_map]
  refine congrArg some (congrArg (TimelinePage.mk _) ?_)
  by_cases hmore : limit < found.length
  · rw [if_pos hmore, if_pos hmore]
    cases found[limit - 1]? with
    | none => rfl
    | some entry => exact row_sequence alnum entry
  · rw [if_neg hmore, if_neg hmore]
    rfl

/-! ### Page after page

The cursor is the number of the last entry of a page, and the next page begins below it.  Entries
that come in have greater numbers than all that are there, so the part of the table below a cursor
never changes, and the pages are those of `Lib/Paging`.
-/

theorem mem_of_nextCursor {rows : List AuditEntry} {before : Option Int} {limit : Nat} {c : Int}
    (h : (page AuditEntry.sequence rows before limit).nextCursor = some c) :
    ∃ entry ∈ rows, entry.sequence = c := by
  unfold page at h
  simp only at h
  split at h
  · obtain ⟨entry, hentry, rfl⟩ := Option.map_eq_some_iff.mp h
    refine ⟨entry, ?_, rfl⟩
    exact List.mem_of_mem_filter
      ((descending_perm _).mem_iff.mp (List.mem_of_mem_take (List.mem_of_getElem? hentry)))
  · simp at h

theorem followCursor_eq {alnum : Char → Bool} {tables : Nat → List AuditEntry}
    {incidentId : String} {limit : Nat} (hlimit : 1 ≤ limit ∧ limit ≤ 100)
    (hpositive : ∀ n, ∀ entry ∈ entriesOf incidentId (tables n), 0 < entry.sequence) :
    ∀ (fuel n : Nat) (before : Option Int), (∀ c ∈ before, 0 < c) →
      followCursor alnum tables incidentId limit fuel n before =
        (follow AuditEntry.sequence (fun n => entriesOf incidentId (tables n)) limit fuel n
          before).map fun pages => pages.map (List.map fun entry => row alnum entry.columns) := by
  intro fuel
  induction fuel with
  | zero => exact fun _ _ _ => rfl
  | succ fuel ih =>
      intro n before hbefore
      rw [followCursor, timeline_eq alnum _ _ hbefore hlimit, follow]
      cases hnext : (page AuditEntry.sequence (entriesOf incidentId (tables n)) before
          limit).nextCursor with
      | none => rfl
      | some c =>
          obtain ⟨entry, hentry, rfl⟩ := mem_of_nextCursor hnext
          have hrest := ih (n + 1) (some entry.sequence) fun c hc => by
            obtain rfl := Option.some.inj hc
            exact hpositive n entry hentry
          simp only [Option.map_some, hrest, Option.map_map, Function.comp_def, List.map_cons]

/-- The trail while the pages are read: entries with distinct positive numbers, and after them
entries with greater numbers. -/
structure TrailGrows (tables : Nat → List AuditEntry) : Prop where
  distinct : ((tables 0).map AuditEntry.sequence).Nodup
  positive : ∀ entry ∈ tables 0, 0 < entry.sequence
  appended : ∀ n, ∃ added, tables n = tables 0 ++ added ∧
    ∀ entry ∈ tables 0, ∀ later ∈ added, entry.sequence < later.sequence

theorem TrailGrows.growsAbove {tables : Nat → List AuditEntry} (h : TrailGrows tables)
    (incidentId : String) : GrowsAbove AuditEntry.sequence (entriesOf incidentId (tables 0))
      fun n => entriesOf incidentId (tables n) := by
  refine ⟨rfl, fun n => ?_⟩
  obtain ⟨added, htable, habove⟩ := h.appended n
  refine ⟨entriesOf incidentId added, ?_, ?_⟩
  · unfold entriesOf
    rw [htable, List.filter_append]
  · exact fun entry hentry later hlater =>
      habove entry (List.mem_of_mem_filter hentry) later (List.mem_of_mem_filter hlater)

theorem TrailGrows.positive_entries {tables : Nat → List AuditEntry} (h : TrailGrows tables)
    {first : AuditEntry} (hfirst : first ∈ tables 0) (n : Nat) :
    ∀ entry ∈ tables n, 0 < entry.sequence := by
  obtain ⟨added, htable, habove⟩ := h.appended n
  intro entry hentry
  rw [htable] at hentry
  rcases List.mem_append.mp hentry with hold | hnew
  · exact h.positive entry hold
  · exact (h.positive first hfirst).trans (habove first hfirst entry hnew)

/-- **The pages of the timeline are the timeline**: every entry of the incident that was there at
the first request, once, from the latest one on. -/
theorem timeline_complete (alnum : Char → Bool) (tables : Nat → List AuditEntry)
    (hgrows : TrailGrows tables) (incidentId : String) (limit : Nat)
    (hlimit : 1 ≤ limit ∧ limit ≤ 100) :
    ∃ (entries : List AuditEntry) (fuel : Nat), entries.Perm (entriesOf incidentId (tables 0)) ∧
      entries.Pairwise (fun entry next => next.sequence < entry.sequence) ∧
      ∀ more, fuel ≤ more → ∃ pages,
        followCursor alnum tables incidentId limit more 0 none = some pages ∧
          pages.flatten = entries.map fun entry => row alnum entry.columns := by
  have hkeys : ((entriesOf incidentId (tables 0)).map AuditEntry.sequence).Nodup :=
    (List.filter_sublist.map AuditEntry.sequence).nodup hgrows.distinct
  refine ⟨descending AuditEntry.sequence (entriesOf incidentId (tables 0)),
    (entriesOf incidentId (tables 0)).length + 1, descending_perm _, descending_sorted hkeys, ?_⟩
  intro more hmore
  obtain ⟨pages, hpages, hflat⟩ :=
    follow_complete hkeys (hgrows.growsAbove incidentId) hlimit.1 (Nat.lt_of_succ_le hmore)
  refine ⟨pages.map (List.map fun entry => row alnum entry.columns), ?_, ?_⟩
  · cases hfirst : tables 0 with
    | nil =>
        obtain ⟨rest, rfl⟩ : ∃ rest, more = rest + 1 := ⟨more - 1, by omega⟩
        have hnone : entriesOf incidentId (tables 0) = [] := by
          rw [hfirst]
          rfl
        rw [follow, hnone] at hpages
        rw [followCursor, timeline_eq alnum _ _ (by simp) hlimit, hnone]
        rw [← Option.some.inj hpages]
        rfl
    | cons first rest =>
        have hpositive := fun n entry (hentry : entry ∈ entriesOf incidentId (tables n)) =>
          hgrows.positive_entries (by rw [hfirst]; exact List.mem_cons_self) n entry
            (List.mem_of_mem_filter hentry)
        rw [followCursor_eq hlimit hpositive more 0 none (by simp), hpages]
        rfl
  · rw [← hflat, List.map_flatten]

/-- A trail that grows by an entry with each request, after two entries of an incident. -/
def growingTrail (n : Nat) : List AuditEntry :=
  (List.range (n + 2)).map fun (k : Nat) =>
    { id := "entry", createdAt := "2024-01-01T00:00:00Z", sequence := (k : Int) + 1,
      incidentId := some "incident", actor := "system", operation := "note",
      entityType := "incident", entityId := "incident", details := [] }

theorem growingTrail_grows : TrailGrows growingTrail := by
  refine ⟨by decide, ?_, fun n => ⟨(growingTrail n).drop 2, ?_, ?_⟩⟩
  · intro entry hentry
    simp only [growingTrail, List.mem_map] at hentry
    obtain ⟨k, -, rfl⟩ := hentry
    show (0 : Int) < k + 1
    omega
  · have hfirst : growingTrail 0 = (growingTrail n).take 2 := by
      unfold growingTrail
      rw [← List.map_take, List.take_range, Nat.min_eq_left (by omega)]
    rw [hfirst, List.take_append_drop]
  · intro entry hentry later hlater
    simp only [growingTrail, List.mem_map, List.mem_range] at hentry
    obtain ⟨k, hk, rfl⟩ := hentry
    rw [growingTrail, ← List.map_drop] at hlater
    obtain ⟨k', hk', rfl⟩ := List.mem_map.mp hlater
    obtain ⟨i, hi, rfl⟩ := List.mem_iff_getElem.mp hk'
    rw [List.getElem_drop, List.getElem_range]
    show (k : Int) + 1 < ((2 + i : Nat) : Int) + 1
    omega

theorem timeline_complete_growing : TrailGrows growingTrail ∧
    ∃ (entries : List AuditEntry) (fuel : Nat),
      entries.Perm (entriesOf "incident" (growingTrail 0)) ∧
      entries.Pairwise (fun entry next => next.sequence < entry.sequence) ∧
      ∀ more, fuel ≤ more → ∃ pages,
        followCursor Char.isAlphanum growingTrail "incident" 1 more 0 none = some pages ∧
          pages.flatten = entries.map fun entry => row Char.isAlphanum entry.columns :=
  ⟨growingTrail_grows,
    timeline_complete Char.isAlphanum growingTrail growingTrail_grows "incident" 1 (by decide)⟩

end SelfHealing
