/-
Resolving a resource twice.

The lookups depend on the hints alone.  So after a placeholder was added the same lookups can find
nothing but the placeholder (`lookUp_insert`), and they find it by the identifier that it was made
with, if that is what the column has kept.

The condition is about what the hints are and what the column keeps of them.  A name that is longer
than the column is cut by the model of the database as it is cut there, and the lookup asks for the
whole of it: then the placeholder is not found again.
-/
import SelfHealing.Proofs.BindingGeneration
import SelfHealing.ResourceResolver

namespace SelfHealing

variable {choice : RowChoice} {table table' : ResourceTable}
  {args : ResolveArgs} {newId : Nat}

/-! ### Lookups after an insert -/

section Lookups

variable {row : ResourceRow}

/-- The query finds the row if nothing else qualifies. -/
def Lookup.finds (lookup : Lookup) (row : ResourceRow) : Prop :=
  ∃ clause, lookup.clause = some clause ∧ clause row = true

theorem scalar_eq_none {clause : ResourceRow → Bool} (h : table.scalar choice clause = none) :
    table.rows.filter clause = [] := by
  by_contra hne
  have hfound := choice.found _ hne
  unfold ResourceTable.scalar at h
  rw [h] at hfound
  cases hfound

theorem insert_rows (h : table.insert row = some table') :
    table'.rows = table.rows ++ [row] := by
  unfold ResourceTable.insert at h
  split at h
  · obtain rfl := Option.some.inj h
    rfl
  · cases h

/-- Where nothing qualified, nothing but the new row does. -/
theorem scalar_insert {clause : ResourceRow → Bool} (hnone : table.scalar choice clause = none)
    (h : table.insert row = some table') :
    table'.scalar choice clause = if clause row then some row else none := by
  unfold ResourceTable.scalar
  rw [insert_rows h, List.filter_append, scalar_eq_none hnone, List.nil_append]
  cases hrow : clause row with
  | true =>
      have hfilter : [row].filter clause = [row] := List.filter_cons_of_pos hrow
      obtain ⟨found, hfound⟩ := Option.isSome_iff_exists.mp (choice.found [row] (by simp))
      rw [hfilter, hfound, List.mem_singleton.mp (choice.mem _ _ hfound)]
      rfl
  | false =>
      have hfilter : [row].filter clause = [] := List.filter_cons_of_neg (by simp [hrow])
      rw [hfilter]
      cases hchosen : choice.choose [] with
      | none => rfl
      | some found => exact absurd (choice.mem _ _ hchosen) (by simp)

theorem lookUp_cons_none {lookup : Lookup} {rest : List Lookup}
    (h : table.lookUp choice (lookup :: rest) = some none) :
    ∃ clause, lookup.clause = some clause ∧ table.scalar choice clause = none ∧
      table.lookUp choice rest = some none := by
  rw [ResourceTable.lookUp] at h
  cases hclause : lookup.clause with
  | none => simp [hclause] at h
  | some clause =>
      simp only [hclause] at h
      cases hscalar : table.scalar choice clause with
      | some found => simp [hscalar] at h
      | none =>
          simp only [hscalar] at h
          exact ⟨clause, rfl, hscalar, h⟩

/-- **After an insert the lookups that found nothing find the new row**, or nothing. -/
theorem lookUp_insert (h : table.insert row = some table') {lookups : List Lookup} :
    table.lookUp choice lookups = some none →
      ((∃ lookup ∈ lookups, lookup.finds row) → table'.lookUp choice lookups = some (some row)) ∧
      ((∀ lookup ∈ lookups, ¬ lookup.finds row) → table'.lookUp choice lookups = some none) := by
  induction lookups with
  | nil => exact fun _ => ⟨fun hfinds => by simp at hfinds, fun _ => rfl⟩
  | cons lookup rest ih =>
      intro hnone
      obtain ⟨clause, hclause, hscalar, hrest⟩ := lookUp_cons_none hnone
      have hlater := scalar_insert hscalar h
      rw [ResourceTable.lookUp, hclause]
      simp only [hlater]
      cases hrow : clause row with
      | true =>
          refine ⟨fun _ => rfl, fun hnever => ?_⟩
          exact absurd ⟨clause, hclause, hrow⟩ (hnever lookup List.mem_cons_self)
      | false =>
          have hself : ¬ lookup.finds row := by
            rintro ⟨_, hsame, hfound⟩
            rw [hclause, Option.some.injEq] at hsame
            rw [← hsame, hrow] at hfound
            cases hfound
          refine ⟨fun hfinds => ?_, fun hnever => ?_⟩
          · obtain ⟨found, hmem, hfound⟩ := hfinds
            rcases List.mem_cons.mp hmem with rfl | hmem
            · exact absurd hfound hself
            · exact (ih hrest).1 ⟨found, hmem, hfound⟩
          · exact (ih hrest).2 fun found hmem => hnever found (List.mem_cons_of_mem _ hmem)

end Lookups

/-! ### The placeholder -/

section Placeholder

variable {text kept : String} {limit : Nat} {row stored : ResourceRow}

theorem varchar_whole (h : text.length ≤ limit) (hkept : varchar limit text = some kept) :
    kept = text := by
  unfold varchar at hkept
  rw [if_pos h] at hkept
  exact (Option.some.inj hkept).symm

theorem varchar_cut (h : limit < text.length) (hkept : varchar limit text = some kept) :
    kept.length = limit := by
  unfold varchar at hkept
  rw [if_neg (Nat.not_le.mpr h)] at hkept
  split at hkept
  · rw [← Option.some.inj hkept, String.length_ofList, List.length_take, String.length_toList]
    omega
  · cases hkept

theorem textOf_eq {value : Data} (h : textOf value = some text) : value = dataText text := by
  unfold textOf at h
  split at h
  · rw [Option.some.inj h]
    rfl
  · cases h
  · cases h
  · cases h

/-- What is in the table after the insert. -/
structure Provisioned (args : ResolveArgs) (newId : Nat)
    (stored : ResourceRow) : Prop where
  id : stored.id = newId
  provider : stored.provider = "compose"
  managed : stored.managed = false
  externalId : varchar 512 (args.targetExt) = some stored.externalId
  name : ∃ name, textOf (args.targetName) = some name ∧
    varchar 128 name = some stored.name

theorem provisioned (hrow : args.placeholder newId = some row)
    (hstored : row.stored = some stored) : Provisioned args newId stored := by
  obtain ⟨name, hname, rfl⟩ := Option.map_eq_some_iff.mp hrow
  unfold ResourceRow.stored at hstored
  simp only at hstored
  split at hstored
  · obtain ⟨externalId, hexternalId, hstored⟩ := Option.bind_eq_some_iff.mp hstored
    obtain ⟨kept, hkept, hstored⟩ := Option.bind_eq_some_iff.mp hstored
    obtain rfl := Option.some.inj hstored
    exact ⟨rfl, rfl, rfl, hexternalId, name, hname, hkept⟩
  · cases hstored

/-- With a name that its column keeps, the identifier is kept as well. -/
theorem Provisioned.whole_of_name (h : Provisioned args newId stored)
    (hname : textOf (args.targetName) = some stored.name ∨ stored.name.length < 128) :
    stored.externalId = args.targetExt := by
  obtain ⟨name, htext, hkept⟩ := h.name
  have hshort : name.length ≤ 128 := by
    by_contra hlong
    rw [not_le] at hlong
    have hcut := varchar_cut hlong hkept
    rcases hname with hsame | hless
    · rw [htext, Option.some.injEq] at hsame
      rw [hsame] at hlong
      omega
    · omega
  refine varchar_whole ?_ h.externalId
  unfold ResolveArgs.targetExt
  rw [textOf_eq htext]
  show ("compose:local:self-healing:" ++ name).length ≤ 512
  rw [String.length_append]
  show 27 + name.length ≤ 512
  omega

end Placeholder

/-! ### What finds the placeholder

For each lookup it is said when it finds the placeholder: by an identifier, if the column has kept
that one whole, and by a name, if it is the one that the placeholder was given.  A lookup before
that one finds nothing, as it has found nothing the first time.
-/

section Finds

variable {stored : ResourceRow} {values : List Data} {texts : List String}

theorem mem_comparands (h : comparands values = some texts) (text : String) :
    text ∈ texts ↔ ∃ value ∈ values, textOf value = some text := by
  have hmap := (Option.filter_eq_some_iff.mp h).1
  clear h
  induction values generalizing texts with
  | nil =>
      obtain rfl : [] = texts := by simpa using hmap
      simp
  | cons value rest ih =>
      rw [List.mapM_cons] at hmap
      obtain ⟨first, hfirst, hmap⟩ := Option.bind_eq_some_iff.mp hmap
      obtain ⟨others, hothers, hmap⟩ := Option.bind_eq_some_iff.mp hmap
      obtain rfl := Option.some.inj hmap
      have hrest : text ∈ others ↔ ∃ value ∈ rest, textOf value = some text := ih hothers
      rw [List.mem_cons, hrest, List.exists_mem_cons_iff, hfirst, Option.some.injEq]
      exact or_congr_left eq_comm

theorem finds_byExternalId (h : (Lookup.byExternalId values).clause.isSome) :
    (Lookup.byExternalId values).finds stored ↔
      ∃ value ∈ values, textOf value = some stored.externalId := by
  obtain ⟨clause, hclause⟩ := Option.isSome_iff_exists.mp h
  obtain ⟨texts, htexts, rfl⟩ := Option.map_eq_some_iff.mp hclause
  unfold Lookup.finds
  rw [hclause]
  simp [← mem_comparands htexts]

theorem finds_byName {value : Data} (h : (Lookup.byName value).finds stored) :
    textOf value = some stored.name := by
  obtain ⟨clause, hclause, hfound⟩ := h
  obtain ⟨texts, htexts, rfl⟩ := Option.map_eq_some_iff.mp hclause
  have hmem := (mem_comparands htexts stored.name).mp (by simpa using hfound)
  simpa using hmem

theorem clauses_of_lookUp {lookups : List Lookup} :
    table.lookUp choice lookups = some none → ∀ lookup ∈ lookups, lookup.clause.isSome := by
  induction lookups with
  | nil => simp
  | cons lookup rest ih =>
      intro hnone
      obtain ⟨clause, hclause, -, hrest⟩ := lookUp_cons_none hnone
      refine List.forall_mem_cons.mpr ⟨?_, ih hrest⟩
      rw [hclause]
      rfl

/-- What the column has kept of the identifier is looked up for another hint. -/
def LookedUp (args : ResolveArgs) (newId : Nat) (kept : String) : Prop :=
  args.resourceId = some newId ∨
  truthy args.extId = true ∧ textOf args.extId = some kept ∨
  truthy args.svc = true ∧ ∃ value ∈ args.serviceExternalIds, textOf value = some kept

theorem jobLookups_short {lookup : Lookup} (hmem : lookup ∈ args.jobLookups)
    (hfinds : lookup.finds stored) : stored.name.length < 128 := by
  have hknown : ∀ name : String, name.length < 128 → lookup = .byName (dataText name) →
      stored.name.length < 128 := by
    rintro name hshort rfl
    have hname := finds_byName hfinds
    rwa [← Option.some.inj (hname : some name = some stored.name)]
  unfold ResolveArgs.jobLookups at hmem
  split at hmem
  · obtain rfl := List.mem_singleton.mp hmem
    obtain ⟨_, hclause, -⟩ := hfinds
    cases hclause
  · exact hknown "demo-api" (by decide) (List.mem_singleton.mp hmem)
  · split at hmem
    · obtain rfl := List.mem_singleton.mp hmem
      obtain ⟨_, hclause, -⟩ := hfinds
      cases hclause
    · exact hknown "demo-worker" (by decide) (List.mem_singleton.mp hmem)
    · simp at hmem

/-- **The placeholder is found by the identifier that it was made with**, or by a hint that happens
to be what the column has kept of it. -/
theorem exists_finds_iff (h : Provisioned args newId stored)
    (hclauses : ∀ lookup ∈ args.lookups, lookup.clause.isSome) :
    (∃ lookup ∈ args.lookups, lookup.finds stored) ↔
      stored.externalId = args.targetExt ∨
        LookedUp args newId stored.externalId := by
  constructor
  · rintro ⟨lookup, hmem, hfinds⟩
    have hsome := hclauses lookup hmem
    unfold ResolveArgs.lookups at hmem
    simp only [List.mem_append, List.mem_singleton] at hmem
    rcases hmem with ((((hmem | hmem) | hmem) | hmem) | hmem) | rfl
    · cases hid : args.resourceId with
      | none => simp [hid] at hmem
      | some id =>
          rw [hid] at hmem
          obtain rfl := List.mem_singleton.mp hmem
          obtain ⟨_, hclause, hfound⟩ := hfinds
          obtain rfl := Option.some.inj hclause
          have hsame : stored.id = id := by simpa using hfound
          exact Or.inr (Or.inl (by rw [hid, ← hsame, h.id]))
    · split at hmem
      · rename_i htruthy
        obtain rfl := List.mem_singleton.mp hmem
        rw [finds_byExternalId hsome] at hfinds
        exact Or.inr (Or.inr (Or.inl ⟨htruthy, by simpa using hfinds⟩))
      · simp at hmem
    · split at hmem
      · rename_i htruthy
        obtain rfl := List.mem_singleton.mp hmem
        rw [finds_byExternalId hsome] at hfinds
        exact Or.inr (Or.inr (Or.inr ⟨htruthy, hfinds⟩))
      · simp at hmem
    · split at hmem
      · rename_i htruthy
        obtain rfl := List.mem_singleton.mp hmem
        refine Or.inl (h.whole_of_name (Or.inl ?_))
        unfold ResolveArgs.targetName orElse
        rw [if_pos htruthy, if_pos htruthy]
        exact finds_byName hfinds
      · simp at hmem
    · split at hmem
      · exact Or.inl (h.whole_of_name (Or.inr (jobLookups_short hmem hfinds)))
      · simp at hmem
    · rw [finds_byExternalId hsome] at hfinds
      exact Or.inl (Option.some.inj (by simpa [textOf, dataText] using hfinds)).symm
  · have hfinds : ∀ values : List Data, (∃ value ∈ values, textOf value = some stored.externalId) →
        .byExternalId values ∈ args.lookups →
        ∃ lookup ∈ args.lookups, lookup.finds stored := fun values hvalues hmem =>
      ⟨_, hmem, (finds_byExternalId (hclauses _ hmem)).mpr hvalues⟩
    rintro (hwhole | hid | ⟨htruthy, hext⟩ | ⟨htruthy, hvalues⟩)
    · refine hfinds [dataText (args.targetExt)] ⟨_, List.mem_singleton.mpr rfl, ?_⟩ ?_
      · rw [hwhole]
        rfl
      · simp [ResolveArgs.lookups]
    · refine ⟨.byId newId, by simp [ResolveArgs.lookups, hid], _, rfl, ?_⟩
      exact decide_eq_true h.id
    · exact hfinds [args.extId] ⟨_, List.mem_singleton.mpr rfl, hext⟩
        (by simp [ResolveArgs.lookups, htruthy])
    · exact hfinds _ hvalues (by simp [ResolveArgs.lookups, htruthy])

end Finds

/-! ### Resolving again -/

section Again

variable {row stored : ResourceRow}

/-- A call that finds nothing adds the placeholder. -/
theorem resolve_cases (h : table.resolve choice args newId = some (row, table')) :
    table.lookUp choice (args.lookups) = some (some row) ∧ table' = table ∨
      table.lookUp choice (args.lookups) = some none ∧
        args.placeholder newId = some row ∧
        ∃ stored, row.stored = some stored ∧ table.insert stored = some table' := by
  unfold ResourceTable.resolve at h
  split at h
  · cases h
  · rename_i found hfound
    obtain ⟨rfl, rfl⟩ := Prod.mk.inj (Option.some.inj h)
    exact Or.inl ⟨hfound, rfl⟩
  · rename_i hnone
    obtain ⟨placeholder, hplaceholder, h⟩ := Option.bind_eq_some_iff.mp h
    obtain ⟨stored, hstored, h⟩ := Option.bind_eq_some_iff.mp h
    obtain ⟨added, hadded, h⟩ := Option.bind_eq_some_iff.mp h
    obtain ⟨rfl, rfl⟩ := Prod.mk.inj (Option.some.inj h)
    exact Or.inr ⟨hnone, hplaceholder, stored, hstored, hadded⟩

theorem resolve_of_found (h : table.lookUp choice (args.lookups) = some (some row)) :
    table.resolve choice args newId = some (row, table) := by
  unfold ResourceTable.resolve
  rw [h]

/-- A second placeholder would be the first one again, which the constraint refuses. -/
theorem resolve_conflict (hnone : table'.lookUp choice (args.lookups) = some none)
    (h : Provisioned args newId stored) (hmem : stored ∈ table'.rows) (laterId : Nat) :
    table'.resolve choice args laterId = none := by
  cases hresolved : table'.resolve choice args laterId with
  | none => rfl
  | some result =>
      obtain ⟨row, after⟩ := result
      rcases resolve_cases hresolved with ⟨hfound, -⟩ | ⟨-, hrow, again, hagain, hinsert⟩
      · rw [hnone] at hfound
        cases hfound
      · have hsame := provisioned hrow hagain
        have hkey : (again.provider, again.externalId) ∈
            table'.rows.map fun row => (row.provider, row.externalId) := by
          refine List.mem_map.mpr ⟨stored, hmem, ?_⟩
          have hexternalId := h.externalId.symm.trans hsame.externalId
          rw [h.provider, hsame.provider, Option.some.inj hexternalId]
        unfold ResourceTable.insert at hinsert
        rw [dif_neg fun hnew => hnew.2 hkey] at hinsert
        cases hinsert

end Again

/-- The call leaves the rows that there are, adds at most one that nothing may act on, and where it
is repeated it returns the same resource and adds nothing. -/
def SafeAndStable (choice : RowChoice) (table : ResourceTable)
    (args : ResolveArgs) (newId : Nat) : Prop :=
  ∀ row table', table.resolve choice args newId = some (row, table') →
    (table' = table ∨ ∃ added, table'.rows = table.rows ++ [added] ∧ added.managed = false) ∧
      ∀ laterId, ∃ again, table'.resolve choice args laterId = some (again, table') ∧
        again.id = row.id

/-- A placeholder that is added can be found: its identifier is kept whole, or what is kept of it is
looked up for another hint. -/
def KeepsPlaceholder (choice : RowChoice) (table : ResourceTable)
    (args : ResolveArgs) (newId : Nat) : Prop :=
  table.lookUp choice (args.lookups) = some none →
    ∀ row stored, args.placeholder newId = some row → row.stored = some stored →
      (table.insert stored).isSome →
      stored.externalId = args.targetExt ∨ LookedUp args newId stored.externalId

theorem safeAndStable_of_keeps (h : KeepsPlaceholder choice table args newId) :
    SafeAndStable choice table args newId := by
  intro row table' hresolved
  rcases resolve_cases hresolved with ⟨hfound, rfl⟩ | ⟨hnone, hrow, stored, hstored, hinsert⟩
  · exact ⟨Or.inl rfl, fun _ => ⟨row, resolve_of_found hfound, rfl⟩⟩
  · have hplaceholder := provisioned hrow hstored
    refine ⟨Or.inr ⟨stored, insert_rows hinsert, hplaceholder.managed⟩, fun laterId => ?_⟩
    have hkept := h hnone row stored hrow hstored (by rw [hinsert]; rfl)
    have hfinds := (exists_finds_iff hplaceholder (clauses_of_lookUp hnone)).mpr hkept
    refine ⟨stored, resolve_of_found ((lookUp_insert hinsert hnone).1 hfinds), ?_⟩
    obtain ⟨name, -, rfl⟩ := Option.map_eq_some_iff.mp hrow
    exact hplaceholder.id

theorem keeps_of_safeAndStable (h : SafeAndStable choice table args newId) :
    KeepsPlaceholder choice table args newId := by
  intro hnone row stored hrow hstored hisSome
  obtain ⟨table', hinsert⟩ := Option.isSome_iff_exists.mp hisSome
  have hplaceholder := provisioned hrow hstored
  have hresolved : table.resolve choice args newId = some (row, table') := by
    unfold ResourceTable.resolve
    simp only [hnone, hrow, hstored, hinsert, Option.bind_eq_bind, Option.bind_some]
  rw [← exists_finds_iff hplaceholder (clauses_of_lookUp hnone)]
  by_contra hlost
  have hagain : table'.lookUp choice (args.lookups) = some none :=
    (lookUp_insert hinsert hnone).2 fun lookup hmem hfinds => hlost ⟨lookup, hmem, hfinds⟩
  have hmem : stored ∈ table'.rows := by
    rw [insert_rows hinsert]
    simp
  obtain ⟨again, hsame, -⟩ := (h row table' hresolved).2 newId
  rw [resolve_conflict hagain hplaceholder hmem newId] at hsame
  cases hsame

/-- **Resolution is safe and stable exactly if the placeholder that it adds can be found.** -/
theorem resolve_safe_iff (choice : RowChoice) (table : ResourceTable)
    (args : ResolveArgs) (newId : Nat) :
    SafeAndStable choice table args newId ↔
      KeepsPlaceholder choice table args newId :=
  ⟨keeps_of_safeAndStable, safeAndStable_of_keeps⟩

/-! ### A placeholder that is lost -/

section Blanks

variable (n : Nat)

/-- A letter and blanks. -/
def blankName : String := String.ofList ('x' :: List.replicate n ' ')

def blankArgs : ResolveArgs := { name := dataText (blankName n) }

theorem truthy_blankName : truthy (dataText (blankName n)) = true := by
  refine decide_eq_true fun h => ?_
  have hchars := congrArg String.toList h
  simp [blankName] at hchars

theorem blank_resName : (blankArgs n).resName = dataText (blankName n) := by
  unfold ResolveArgs.resName orElse blankArgs
  simp only [truthy_blankName, if_true]

theorem blank_targetName : (blankArgs n).targetName = dataText (blankName n) := by
  unfold ResolveArgs.targetName orElse
  simp only [blank_resName, truthy_blankName, if_true]

theorem blank_targetExt :
    (blankArgs n).targetExt = "compose:local:self-healing:" ++ blankName n := by
  unfold ResolveArgs.targetExt
  rw [blank_targetName]
  rfl

theorem blank_lookups : (blankArgs n).lookups =
    [.byName (dataText (blankName n)),
     .byExternalId [dataText ("compose:local:self-healing:" ++ blankName n)]] := by
  have hnull : truthy dataNull = false := rfl
  have hid : (blankArgs n).resourceId = none := rfl
  have hext : truthy (blankArgs n).extId = false := rfl
  have hsvc : truthy (blankArgs n).svc = false := rfl
  have hjb : truthy (blankArgs n).jb = false := rfl
  simp [ResolveArgs.lookups, hid, hext, hsvc, hjb, blank_resName, truthy_blankName,
    blank_targetExt]

theorem sendable_blank : sendable (blankName n) = true ∧
    sendable ("compose:local:self-healing:" ++ blankName n) = true := by
  simp [sendable, blankName, String.toList_append]

theorem length_blankName : (blankName n).length = n + 1 := by
  rw [← String.length_toList]
  simp [blankName]

/-- Beyond a limit there are only blanks. -/
theorem varchar_blank {limit : Nat} (front : String) (hfront : front.length < limit)
    (hlong : limit < (front ++ blankName n).length) :
    ∃ kept, varchar limit (front ++ blankName n) = some kept := by
  unfold varchar
  rw [if_neg (Nat.not_le.mpr hlong), if_pos]
  · exact ⟨_, rfl⟩
  · rw [← String.length_toList] at hfront
    have hdrop : (front ++ blankName n).toList.drop limit =
        (List.replicate n ' ').drop (limit - front.toList.length - 1) := by
      rw [String.toList_append, List.drop_append, List.drop_of_length_le hfront.le, List.nil_append]
      obtain ⟨k, hk⟩ : ∃ k, limit - front.toList.length = k + 1 :=
        ⟨limit - front.toList.length - 1, by omega⟩
      rw [hk, blankName, String.toList_ofList, List.drop_succ_cons, Nat.add_sub_cancel]
    rw [hdrop, List.drop_replicate, List.all_replicate]
    simp

theorem comparands_text {text : String} (h : sendable text = true) :
    comparands [dataText text] = some [text] := by
  simp [comparands, textOf, dataText, h]

/-- In an empty table nothing is found. -/
theorem blank_lookUp : (⟨[], List.nodup_nil, List.nodup_nil⟩ : ResourceTable).lookUp firstRow
    ((blankArgs n).lookups) = some none := by
  rw [blank_lookups]
  simp [ResourceTable.lookUp, Lookup.clause, comparands_text (sendable_blank n).1,
    comparands_text (sendable_blank n).2, ResourceTable.scalar, firstRow]

/-- The placeholder, and what the columns keep of it. -/
theorem blank_stored {externalId name : String} (id : Nat)
    (hexternalId : varchar 512 ("compose:local:self-healing:" ++ blankName n) = some externalId)
    (hname : varchar 128 (blankName n) = some name) :
    ∃ row, (blankArgs n).placeholder id = some row ∧
      ∃ stored, row.stored = some stored ∧ stored.externalId = externalId := by
  have htext : textOf ((blankArgs n).targetName) = some (blankName n) := by
    rw [blank_targetName]
    rfl
  refine ⟨_, by rw [ResolveArgs.placeholder, htext, Option.map_some], ?_⟩
  have hnone : dataStr (blankArgs n).svc = "None" ∧
      dataStr (blankArgs n).jb = "None" := ⟨rfl, rfl⟩
  have hsendable : sendable "None" = true := by decide
  simp [ResourceRow.stored, blank_targetExt, hexternalId, hname, hnone.1, hnone.2, hsendable,
    sendable_blank n, textOf, dataText]

end Blanks

/-- The placeholder of a name that ends in many blanks is not found again. -/
theorem resolve_again_fails : ¬ ∀ (choice : RowChoice) (table : ResourceTable)
    (args : ResolveArgs) (newId : Nat), SafeAndStable choice table args newId := by
  intro hall
  have hkeeps := keeps_of_safeAndStable
    (hall firstRow ⟨[], List.nodup_nil, List.nodup_nil⟩ (blankArgs 600) 1)
    (blank_lookUp 600)
  have hlong : ("compose:local:self-healing:" ++ blankName 600).length = 628 := by
    rw [String.length_append, length_blankName]
    rfl
  obtain ⟨externalId, hexternalId⟩ : ∃ kept,
      varchar 512 ("compose:local:self-healing:" ++ blankName 600) = some kept :=
    varchar_blank 600 _ (by decide) (by rw [hlong]; decide)
  obtain ⟨name, hname⟩ : ∃ kept, varchar 128 ("" ++ blankName 600) = some kept :=
    varchar_blank 600 _ (by decide) (by rw [String.length_append, length_blankName]; decide)
  rw [String.empty_append] at hname
  have hcut : externalId.length = 512 := varchar_cut (by rw [hlong]; decide) hexternalId
  obtain ⟨row, hrow, stored, hstored, hkept⟩ :=
    blank_stored 600 1 hexternalId hname
  rcases hkeeps row stored hrow hstored (by simp [ResourceTable.insert]) with hwhole | hlooked
  · rw [hkept, blank_targetExt] at hwhole
    rw [hwhole, hlong] at hcut
    exact absurd hcut (by decide)
  · rcases hlooked with hid | ⟨htruthy, -⟩ | ⟨htruthy, -⟩
    · cases hid
    · cases htruthy
    · cases htruthy

end SelfHealing
