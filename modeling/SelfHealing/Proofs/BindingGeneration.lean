/-
The binding generation is a fencing number.

A resource that was never bound has no generation, which counts as none here; from the first
binding on it has one that is positive (`Numbered`).  Every call of the discovery keeps the binding
or counts the change (`counts_bound`), so a generation that is the same at two times has had one
container in between.  The adapter counts a missing generation as the first, but it asks for the
container as well, which keeps the two apart.

A call that finds a container for the service of a resource binds the resource to it
(`synced_binds`), in the way in which the workflow binds the resource that it has read.  Every other
call leaves the labels as they are.
-/
import SelfHealing.Lib.Fencing
import SelfHealing.Proofs.Authorisation
import SelfHealing.Resources
import SelfHealing.Workflow.Nodes

namespace SelfHealing

open Fencing Masking

/-! ### The labels of a binding

The generation is a text among the labels, and labels may hold anything.  From a binding on there
is a number in it, since a binding writes one, and that number is positive; before that there is
none, or one that is read as the first.
-/

/-- An integer among the labels. -/
def intLabel : Data → Option Int
  | .atom (.int n) => some n
  | _ => none

/-- The container that the labels are bound to, and the generation of it. -/
def bindingOf (labels : DataDict) : Binding String where
  holder := (labels.get? "docker_container_id").bind textOf
  generation := ((labels.get? "binding_generation").bind intLabel).getD 0

/-- What the adapter and the workflow read of a resource. -/
def ResourceRow.resource (row : ResourceRow) : Resource where
  id := row.id
  name := row.name
  environment := row.environment
  dockerContainerId := (row.labels.get? "docker_container_id").bind textOf
  containerId := (row.labels.get? "container_id").bind textOf
  bindingGeneration := (row.labels.get? "binding_generation").bind intLabel
  composeService := (row.labels.get? "compose_service").bind textOf

/-- Neither container nor generation. -/
def Unbound (labels : DataDict) : Prop :=
  labels.get? "docker_container_id" = none ∧ labels.get? "binding_generation" = none

/-- Without a binding there is no generation, and with one it is positive. -/
def Numbered (labels : DataDict) : Prop :=
  Unbound labels ∨ ∃ (container : String) (n : Int), 1 ≤ n ∧
    labels.get? "docker_container_id" = some (dataText container) ∧
    labels.get? "binding_generation" = some (.atom (.int n))

section Labels

variable {labels labels' : DataDict} {container : ContainerInfo} {now : String}

theorem get?_merge_of_not_mem {key : String} {entries : DataDict}
    (h : key ∉ entries.map Prod.fst) (dict : DataDict) :
    (dict.merge entries).get? key = dict.get? key := by
  unfold DataDict.merge
  induction entries generalizing dict with
  | nil => rfl
  | cons entry rest ih =>
      rw [List.map_cons, List.mem_cons, not_or] at h
      rw [List.foldl_cons, ih h.2]
      exact lookup_put_ne h.1 ..

/-- What a binding writes, and what it leaves. -/
structure Binds (labels labels' : DataDict) (container : ContainerInfo) (generation : Data) :
    Prop where
  holder : labels'.get? "docker_container_id" = some (dataText container.containerId)
  generation : labels'.get? "binding_generation" = some generation
  service : labels'.get? "compose_service" = some (dataText container.composeService)
  others : labels'.get? "container_id" = labels.get? "container_id"

/-- **The labels are bound as a fencing number is.** -/
theorem boundLabels_eq (h : Numbered labels) (container : ContainerInfo) (now : String) :
    ∃ labels', boundLabels labels container now = some labels' ∧
      Binds labels labels' container
        (.atom (.int ((bindingOf labels).bind container.containerId).generation)) := by
  have hnew : (if (labels.get? "docker_container_id").bind textOf ≠ some container.containerId
      then nextGeneration (labels.getOr "binding_generation" (.atom (.int 0)))
      else keptGeneration (labels.getOr "binding_generation" (.atom (.int 0)))) =
      some (.atom (.int ((bindingOf labels).bind container.containerId).generation)) := by
    rcases h with ⟨hholder, hnumber⟩ | ⟨bound, n, hn, hholder, hnumber⟩
    · simp [bindingOf, Binding.bind, hholder, hnumber, DataDict.getOr, nextGeneration]
    · by_cases hsame : bound = container.containerId
      · have hpos : 0 < n := hn
        simp [bindingOf, Binding.bind, hholder, hnumber, DataDict.getOr, keptGeneration, textOf,
          dataText, intLabel, hsame, hpos]
      · simp [bindingOf, Binding.bind, hholder, hnumber, DataDict.getOr, nextGeneration, textOf,
          dataText, intLabel, hsame]
  unfold boundLabels
  simp only [hnew, Option.map_some]
  refine ⟨_, rfl, ?_, ?_, ?_, get?_merge_of_not_mem (by simp) labels⟩
  · simp [DataDict.merge, DataDict.get?, lookup_put_self, lookup_put_ne]
  · simp [DataDict.merge, DataDict.get?, lookup_put_self, lookup_put_ne]
  · simp [DataDict.merge, DataDict.get?, lookup_put_self, lookup_put_ne]

theorem Numbered.binding (h : Numbered labels) : (bindingOf labels).Numbered := by
  rcases h with ⟨hholder, hnumber⟩ | ⟨bound, n, hn, hholder, hnumber⟩
  · exact Or.inl (by simp [bindingOf, hholder, hnumber])
  · exact Or.inr (by simpa [bindingOf, hholder, hnumber, textOf, dataText, intLabel] using hn)

theorem Binds.binding {n : Int} (h : Binds labels labels' container (.atom (.int n))) :
    bindingOf labels' = ⟨some container.containerId, n⟩ := by
  unfold bindingOf
  rw [h.holder, h.generation]
  rfl

/-- **A binding keeps the container or counts the change.** -/
theorem counts_bound (h : Numbered labels) (container : ContainerInfo) (now : String) :
    ∃ labels', boundLabels labels container now = some labels' ∧ Numbered labels' ∧
      Counts (bindingOf labels) (bindingOf labels') ∧
      labels'.get? "container_id" = labels.get? "container_id" := by
  obtain ⟨labels', hlabels', hbinds⟩ := boundLabels_eq h container now
  have hpositive : 1 ≤ ((bindingOf labels).bind container.containerId).generation := by
    rcases h.binding.bind container.containerId with ⟨hnone, -⟩ | ⟨-, hpos⟩
    · cases hnone
    · exact hpos
  refine ⟨labels', hlabels', Or.inr ⟨_, _, hpositive, hbinds.holder, hbinds.generation⟩, ?_,
    hbinds.others⟩
  rw [hbinds.binding]
  exact h.binding.counts container.containerId

/-- What the workflow reads of the resource is bound as the workflow binds it. -/
theorem resource_bound {row : ResourceRow} (h : Numbered row.labels) (managed : Bool)
    (hbound : boundLabels row.labels container now = some labels') :
    (row.relabelled row.id labels' managed).resource =
      row.resource.boundTo ⟨container.containerId, container.composeService, row.id⟩ := by
  obtain ⟨_, hlabels', hbinds⟩ := boundLabels_eq h container now
  obtain rfl := Option.some.inj (hbound.symm.trans hlabels')
  unfold ResourceRow.relabelled ResourceRow.resource Resource.boundTo
  simp only [if_true, hbinds.holder, hbinds.generation, hbinds.service, hbinds.others,
    Option.bind_some]
  rfl

end Labels

/-! ### The table -/

section Table

variable {choice : RowChoice} {table : ResourceTable} {r : Nat} {row : ResourceRow}

theorem get_mem (h : table.get r = some row) : row ∈ table.rows ∧ row.id = r :=
  ⟨List.mem_of_find?_eq_some h, by simpa using List.find?_some h⟩

theorem get_of_mem (h : row ∈ table.rows) : table.get row.id = some row := by
  cases hget : table.get row.id with
  | none =>
      have hnone := List.find?_eq_none.mp hget row h
      simp at hnone
  | some found =>
      obtain ⟨hfound, hid⟩ := get_mem hget
      rw [List.inj_on_of_nodup_map table.ids hfound h hid]

theorem scalar_mem {clause : ResourceRow → Bool} (h : table.scalar choice clause = some row) :
    row ∈ table.rows ∧ clause row = true :=
  List.mem_filter.mp (choice.mem _ _ h)

theorem ofService_mem {serviceName : String} (h : table.ofService choice serviceName = some row) :
    row ∈ table.rows := by
  unfold ResourceTable.ofService at h
  rcases Option.or_eq_some_iff.mp h with h | ⟨-, h⟩
  · exact (scalar_mem h).1
  · exact (scalar_mem h).1

theorem get_relabel (table : ResourceTable) (id r : Nat) (labels : DataDict) (managed : Bool) :
    (table.relabel id labels managed).get r =
      (table.get r).map fun row => row.relabelled id labels managed := by
  unfold ResourceTable.get ResourceTable.relabel
  simp only [List.find?_map, Function.comp_def, relabelled_id]

/-- A call leaves the labels of a row, or binds them to a container. -/
theorem synced_get (h : table.get r = some row) (hnumbered : Numbered row.labels)
    (call : SyncCall) : ∃ row', (table.synced choice [call]).get r = some row' ∧
      Numbered row'.labels ∧ Counts (bindingOf row.labels) (bindingOf row'.labels) ∧
      row'.labels.get? "container_id" = row.labels.get? "container_id" := by
  have hkept : Counts (bindingOf row.labels) (bindingOf row.labels) := Or.inl ⟨rfl, rfl⟩
  unfold ResourceTable.synced
  rw [List.foldl_cons, List.foldl_nil]
  unfold ResourceTable.syncResourceBinding
  cases discoverContainer call.client call.serviceName (some "self-healing-agent") with
  | none => exact ⟨row, h, hnumbered, hkept, rfl⟩
  | some container =>
      simp only
      cases hservice : table.ofService choice call.serviceName with
      | none => exact ⟨row, h, hnumbered, hkept, rfl⟩
      | some resource =>
          simp only
          cases hlabels : boundLabels resource.labels container call.now with
          | none => exact ⟨row, h, hnumbered, hkept, rfl⟩
          | some labels =>
              simp only [Option.map_some, Option.getD_some, get_relabel, h]
              refine ⟨_, rfl, ?_⟩
              unfold ResourceRow.relabelled
              by_cases hid : row.id = resource.id
              · have hsame : resource = row := by
                  have hresource := get_of_mem (ofService_mem hservice)
                  rw [← hid, (get_mem h).2, h, Option.some.injEq] at hresource
                  exact hresource.symm
                subst hsame
                obtain ⟨labels', hbound, hrest⟩ := counts_bound hnumbered container call.now
                rw [hlabels, Option.some.injEq] at hbound
                rw [if_pos rfl, hbound]
                exact hrest
              · rw [if_neg hid]
                exact ⟨hnumbered, hkept, rfl⟩

/-- **A call that discovers a container for a resource binds it.** -/
theorem synced_binds (h : table.get r = some row) (hnumbered : Numbered row.labels) {call : SyncCall}
    {container : ContainerInfo}
    (hfound : discoverContainer call.client call.serviceName (some "self-healing-agent") =
      some container)
    (hservice : table.ofService choice call.serviceName = some row) :
    ∃ row', (table.synced choice [call]).get r = some row' ∧
      row'.resource = row.resource.boundTo ⟨container.containerId, container.composeService, r⟩ := by
  obtain ⟨labels, hlabels, -⟩ := boundLabels_eq hnumbered container call.now
  have hid : row.id = r := (get_mem h).2
  subst hid
  let managed := decide (call.serviceName = "demo-api") && container.managed
  have hrow : (table.synced choice [call]).get row.id =
      some (row.relabelled row.id labels managed) := by
    unfold ResourceTable.synced ResourceTable.syncResourceBinding
    simp only [List.foldl_cons, List.foldl_nil, hfound, hservice, hlabels, Option.map_some,
      Option.getD_some, get_relabel, h, managed]
  exact ⟨_, hrow, resource_bound hnumbered managed hlabels⟩

theorem synced_snoc (table : ResourceTable) (calls : List SyncCall) (call : SyncCall) :
    table.synced choice (calls ++ [call]) = (table.synced choice calls).synced choice [call] := by
  unfold ResourceTable.synced
  rw [List.foldl_append]

/-- A resource over the calls. -/
structure SyncedRows (choice : RowChoice) (table : ResourceTable) (calls : List SyncCall) (r : Nat)
    (rows : Nat → ResourceRow) : Prop where
  row : ∀ n, (table.synced choice (calls.take n)).get r = some (rows n)
  numbered : ∀ n, Numbered (rows n).labels
  counts : ∀ n, Counts (bindingOf (rows n).labels) (bindingOf (rows (n + 1)).labels)
  others : ∀ n, (rows n).labels.get? "container_id" = (rows 0).labels.get? "container_id"

theorem exists_syncedRows (calls : List SyncCall) (h : table.get r = some row)
    (hnumbered : Numbered row.labels) : ∃ rows, SyncedRows choice table calls r rows := by
  have hall : ∀ n, ∃ found, (table.synced choice (calls.take n)).get r = some found ∧
      Numbered found.labels := by
    intro n
    induction n with
    | zero => exact ⟨row, h, hnumbered⟩
    | succ n ih =>
        obtain ⟨found, hfound, hnumbered⟩ := ih
        by_cases hn : n < calls.length
        · obtain ⟨row', hrow', hnumbered', -⟩ := synced_get hfound hnumbered calls[n]
          rw [← synced_snoc, List.take_append_getElem hn] at hrow'
          exact ⟨row', hrow', hnumbered'⟩
        · rw [List.take_of_length_le (by omega)]
          rw [List.take_of_length_le (by omega)] at hfound
          exact ⟨found, hfound, hnumbered⟩
  choose rows hrows hnumbers using hall
  have hstep : ∀ n, Counts (bindingOf (rows n).labels) (bindingOf (rows (n + 1)).labels) ∧
      (rows (n + 1)).labels.get? "container_id" = (rows n).labels.get? "container_id" := by
    intro n
    have hnext := hrows (n + 1)
    by_cases hn : n < calls.length
    · obtain ⟨row', hrow', -, hcounts, hothers⟩ := synced_get (hrows n) (hnumbers n) calls[n]
      rw [← synced_snoc, List.take_append_getElem hn, hnext, Option.some.injEq] at hrow'
      rw [hrow']
      exact ⟨hcounts, hothers⟩
    · have hsame := hrows n
      rw [List.take_of_length_le (by omega)] at hsame hnext
      rw [hsame, Option.some.injEq] at hnext
      rw [← hnext]
      exact ⟨Or.inl ⟨rfl, rfl⟩, rfl⟩
  refine ⟨rows, hrows, hnumbers, fun n => (hstep n).1, fun n => ?_⟩
  induction n with
  | zero => rfl
  | succ n ih => exact (hstep n).2.trans ih

end Table

/-! ### What the precheck sees

The precheck compares what an intent says with what is bound now: with the generation the container
is the same as well, so that an intent for an earlier binding is refused.
-/

section Precheck

variable {row row' : ResourceRow}

/-- The adapter reads the generation that there is, and the first where there is none. -/
theorem Numbered.generation_eq (h : Numbered row.labels) :
    row.resource.generation = max 1 (bindingOf row.labels).generation := by
  unfold Resource.generation ResourceRow.resource bindingOf
  rcases h with ⟨-, hnumber⟩ | ⟨container, n, hn, -, hnumber⟩
  · simp [hnumber]
  · simp only [hnumber, Option.bind_some, intLabel, Option.getD_some]
    exact (max_eq_right hn).symm

theorem boundContainer_congr (hholder : (bindingOf row.labels).holder = (bindingOf row'.labels).holder)
    (hothers : row.labels.get? "container_id" = row'.labels.get? "container_id") :
    row.resource.boundContainer = row'.resource.boundContainer := by
  unfold Resource.boundContainer ResourceRow.resource
  simp only [bindingOf] at hholder
  rw [hholder, hothers]

/-- **What passes the precheck is the binding that the intent was made from**, at every time in
between: also where that was none, and the adapter counts it as the first. -/
theorem precheck_binding {choice : RowChoice} {table : ResourceTable} {calls : List SyncCall}
    {r : Nat} {rows : Nat → ResourceRow} (h : SyncedRows choice table calls r rows) {i j : Nat}
    {intent : ExecutionIntent}
    (hcontainer : (rows i).resource.boundContainer = some intent.containerId)
    (hgeneration : (rows i).resource.generation = intent.bindingGeneration)
    (hcheck : checkBinding intent (some (rows j).resource) = .ok ()) :
    ∀ {k}, i ≤ k → k ≤ j →
      (rows k).resource.boundContainer = some intent.containerId ∧
        (rows k).resource.generation = intent.bindingGeneration := by
  intro k hik hkj
  obtain ⟨found, hfound, hbound, hpassed⟩ := checkBinding_ok hcheck
  obtain rfl := Option.some.inj hfound
  have hik' := generation_monotone h.counts hik
  have hkj' := generation_monotone h.counts hkj
  have hnonneg := (h.numbered i).binding.nonneg
  rw [(h.numbered i).generation_eq] at hgeneration
  rw [(h.numbered j).generation_eq] at hpassed
  simp only at hik' hkj'
  have hnumber : (rows k).resource.generation = intent.bindingGeneration := by
    rw [(h.numbered k).generation_eq]
    omega
  refine ⟨?_, hnumber⟩
  have hothers : ∀ m n, (rows m).labels.get? "container_id" = (rows n).labels.get? "container_id" :=
    fun m n => (h.others m).trans (h.others n).symm
  rw [(h.numbered k).generation_eq] at hnumber
  by_cases hsame : (bindingOf (rows i).labels).generation = (bindingOf (rows k).labels).generation
  · rw [← hcontainer]
    exact boundContainer_congr (holder_eq h.counts hsame hik le_rfl).1 (hothers k i)
  · -- the first binding was made since, and what passed is still that one
    have hlater : (bindingOf (rows k).labels).generation = (bindingOf (rows j).labels).generation := by
      omega
    rw [← hbound]
    exact boundContainer_congr (holder_eq h.counts hlater hkj le_rfl).1.symm (hothers k j)

end Precheck

/-- The generation of a resource over time is a fencing number. -/
structure GenerationFences (rows : Nat → ResourceRow) : Prop where
  monotone : ∀ n,
    (bindingOf (rows n).labels).generation ≤ (bindingOf (rows (n + 1)).labels).generation
  changed : ∀ n, (bindingOf (rows (n + 1)).labels).holder ≠ (bindingOf (rows n).labels).holder ↔
    (bindingOf (rows (n + 1)).labels).generation = (bindingOf (rows n).labels).generation + 1
  kept : ∀ n, (bindingOf (rows (n + 1)).labels).holder = (bindingOf (rows n).labels).holder ↔
    (bindingOf (rows (n + 1)).labels).generation = (bindingOf (rows n).labels).generation
  /-- The same generation at two times, and nothing else was bound in between. -/
  between : ∀ i j, (bindingOf (rows i).labels).generation = (bindingOf (rows j).labels).generation →
    ∀ k, i ≤ k → k ≤ j → (bindingOf (rows k).labels).holder = (bindingOf (rows i).labels).holder ∧
      (bindingOf (rows k).labels).generation = (bindingOf (rows i).labels).generation
  /-- An intent made from the row at one time passes the precheck at another. -/
  precheck : ∀ i j intent, (rows i).resource.boundContainer = some intent.containerId →
    (rows i).resource.generation = intent.bindingGeneration →
    checkBinding intent (some (rows j).resource) = .ok () →
    ∀ k, i ≤ k → k ≤ j → (rows k).resource.boundContainer = some intent.containerId ∧
      (rows k).resource.generation = intent.bindingGeneration

/-- **The binding generation is a fencing number**, over any calls that are committed one after the
other: it counts the changes of the container, so where it is the same at two times nothing else was
bound in between, and a precheck that passes finds the binding that the intent was made from.  A
call that discovers a container for the resource binds the resource to it. -/
theorem binding_generation_fences (choice : RowChoice) (table : ResourceTable)
    (calls : List SyncCall) (r : Nat) (row : ResourceRow) (hrow : table.get r = some row)
    (hunbound : Unbound row.labels) :
    ∃ rows : Nat → ResourceRow,
      (∀ n, (table.synced choice (calls.take n)).get r = some (rows n)) ∧ GenerationFences rows ∧
      ∀ n (hn : n < calls.length) container,
        discoverContainer calls[n].client calls[n].serviceName (some "self-healing-agent") =
          some container →
        (table.synced choice (calls.take n)).ofService choice calls[n].serviceName =
          some (rows n) →
        (rows (n + 1)).resource =
          (rows n).resource.boundTo ⟨container.containerId, container.composeService, r⟩ := by
  obtain ⟨rows, h⟩ := @exists_syncedRows choice _ _ _ calls hrow (Or.inl hunbound)
  refine ⟨rows, h.row, ⟨fun n => generation_monotone h.counts (Nat.le_succ n), ?_, ?_, ?_, ?_⟩,
    ?_⟩
  · intro n
    rcases h.counts n with ⟨hholder, hnumber⟩ | ⟨hholder, hnumber⟩
    · exact ⟨fun hchanged => absurd hholder hchanged, fun hcounted => by omega⟩
    · exact ⟨fun _ => hnumber, fun _ => hholder⟩
  · intro n
    rcases h.counts n with ⟨hholder, hnumber⟩ | ⟨hholder, hnumber⟩
    · exact ⟨fun _ => hnumber, fun _ => hholder⟩
    · exact ⟨fun hkept => absurd hkept hholder, fun hsame => by omega⟩
  · exact fun i j hsame k hik hkj => holder_eq h.counts hsame hik hkj
  · exact fun i j intent hcontainer hgeneration hcheck k hik hkj =>
      precheck_binding h hcontainer hgeneration hcheck hik hkj
  · intro n hn container hfound hservice
    obtain ⟨row', hrow', hbound⟩ := synced_binds (h.row n) (h.numbered n) hfound hservice
    rw [← synced_snoc, List.take_append_getElem hn, h.row (n + 1), Option.some.injEq] at hrow'
    rw [hrow']
    exact hbound

/-- The first of the rows. -/
def firstRow : RowChoice where
  choose := List.head?
  mem := fun _ _ h => List.mem_of_head? h
  found := fun rows h => by
    cases rows with
    | nil => exact absurd rfl h
    | cons row rest => rfl

/-- The demo API, before anything was discovered. -/
def demoApiRow : ResourceRow where
  id := 1
  provider := "compose"
  externalId := "self-healing:demo-api"
  name := "demo-api"
  environment := "local"
  labels := []
  managed := false

/-- One container after the other, and the first one again. -/
def recreated : List SyncCall :=
  ["a", "b", "a"].map fun container =>
    { client := some fun _ => some [⟨container, "demo-api-1", "running", [], none⟩]
      serviceName := "demo-api"
      now := "2024-01-01T00:00:00+00:00" }

/-- The table with nothing but the demo API. -/
def demoApiTable : ResourceTable := ⟨[demoApiRow], by decide, by decide⟩

/-- Each of the calls binds the container that it has found, the first one under another generation
than before. -/
theorem binding_generation_fences_recreated :
    ∃ rows : Nat → ResourceRow,
      (∀ n, (demoApiTable.synced firstRow (recreated.take n)).get 1 = some (rows n)) ∧
      GenerationFences rows ∧
      bindingOf (rows 0).labels = ⟨none, 0⟩ ∧ bindingOf (rows 1).labels = ⟨some "a", 1⟩ ∧
      bindingOf (rows 2).labels = ⟨some "b", 2⟩ ∧ bindingOf (rows 3).labels = ⟨some "a", 3⟩ := by
  obtain ⟨rows, hrows, hfences, -⟩ :=
    binding_generation_fences firstRow demoApiTable recreated 1 demoApiRow rfl ⟨rfl, rfl⟩
  have hbinding : ∀ {n : Nat} {binding : Binding String},
      ((demoApiTable.synced firstRow (recreated.take n)).get 1).map
        (fun row => bindingOf row.labels) = some binding → bindingOf (rows n).labels = binding := by
    intro n binding h
    rw [hrows n] at h
    exact Option.some.inj h
  exact ⟨rows, hrows, hfences, hbinding rfl, hbinding rfl, hbinding rfl, hbinding rfl⟩

end SelfHealing
