/-
The table of resources, and what they are bound to.

A resource is found by its name or by an identifier outside; where several rows qualify, the
database gives any of them.  Discovery writes into the labels of a resource which container it
stands for at the moment, and counts how often that has changed.
-/
import SelfHealing.Normalizer

namespace SelfHealing

/-- A row of `resources`. -/
structure ResourceRow where
  id : Nat
  provider : String
  externalId : String
  name : String
  environment : String
  labels : DataDict
  managed : Bool

/-- The rows, with the primary key and the unique constraint. -/
structure ResourceTable where
  rows : List ResourceRow
  ids : (rows.map ResourceRow.id).Nodup
  keys : (rows.map fun row => (row.provider, row.externalId)).Nodup

/-- Which of the rows that qualify the database gives. -/
structure RowChoice where
  choose : List ResourceRow → Option ResourceRow
  mem : ∀ rows row, choose rows = some row → row ∈ rows
  found : ∀ rows, rows ≠ [] → (choose rows).isSome

namespace ResourceTable

variable (table : ResourceTable)

/-- `session.get(Resource, id)`. -/
def get (id : Nat) : Option ResourceRow := table.rows.find? fun row => decide (row.id = id)

/-- `session.scalar(select(Resource).where(...))`. -/
def scalar (choice : RowChoice) (clause : ResourceRow → Bool) : Option ResourceRow :=
  choice.choose (table.rows.filter clause)

end ResourceTable

/-! ### Discovery -/

/-- A container, as the client of Docker shows it. -/
structure DockerContainer where
  id : String
  name : String
  status : String
  labels : List (String × String)
  created : Option String

/-- What there is to know about a discovered container. -/
structure ContainerInfo where
  containerId : String
  containerName : String
  status : String
  labels : List (String × String)
  managed : Bool
  composeService : String
  composeProject : String
  createdAt : Option String

/-- The listing of containers under a filter of labels, which may raise. -/
abbrev ContainerListing := List String → Option (List DockerContainer)

/-- The details of a container. -/
def DockerContainer.info (target : DockerContainer) (composeService : String) : ContainerInfo :=
  let managed := (target.labels.lookup "self-healing.managed").getD ""
  { containerId := target.id
    containerName := target.name
    status := target.status
    labels := target.labels
    managed := decide (lowered managed = "true")
    composeService := (target.labels.lookup "com.docker.compose.service").getD composeService
    composeProject :=
      (target.labels.lookup "com.docker.compose.project").getD "self-healing-agent"
    createdAt := target.created }

/-- `discover_container`, with the client if there is one. -/
def discoverContainer (client : Option ContainerListing) (composeService : String)
    (composeProject : Option String) : Option ContainerInfo :=
  match client with
  | none => none
  | some containersList =>
      let service := s!"com.docker.compose.service={composeService}"
      let filters := match composeProject.filter (· ≠ "") with
        | some project => [service, s!"com.docker.compose.project={project}"]
        | none => [service]
      match containersList filters with
      | none => none
      | some containers =>
          let target := (containers.find? fun c => decide (c.status = "running")).or containers.head?
          target.map fun target => target.info composeService

/-! ### Binding -/

/-- `generation + 1`; only numbers can be added. -/
def nextGeneration : Data → Option Data
  | .atom (.int n) => some (.atom (.int (n + 1)))
  | .atom (.bool b) => some (.atom (.int (b.toInt + 1)))
  | .atom (.float x) => some (.atom (.float (x + 1)))
  | _ => none

/-- `generation if generation > 0 else 1`; only numbers can be compared. -/
def keptGeneration : Data → Option Data
  | .atom (.int n) => some (if 0 < n then .atom (.int n) else .atom (.int 1))
  | .atom (.bool b) => some (if b then .atom (.bool b) else .atom (.int 1))
  | .atom (.float x) => some (if 0 < x then .atom (.float x) else .atom (.int 1))
  | _ => none

/-- The labels of a resource once it is bound to a container.  Nothing, if the generation that they
have is no number. -/
def boundLabels (labels : DataDict) (container : ContainerInfo) (discoveredAt : String) :
    Option DataDict :=
  let prevContainerId := labels.get? "docker_container_id"
  let prevGeneration := labels.getOr "binding_generation" (.atom (.int 0))
  let newGeneration :=
    if prevContainerId.bind textOf ≠ some container.containerId then nextGeneration prevGeneration
    else keptGeneration prevGeneration
  newGeneration.map fun newGeneration => labels.merge
    [("docker_container_id", dataText container.containerId),
     ("binding_generation", newGeneration),
     ("container_name", dataText container.containerName),
     ("container_status", dataText container.status),
     ("compose_project", dataText container.composeProject),
     ("compose_service", dataText container.composeService),
     ("discovered_at", dataText discoveredAt)]

/-- Other labels, and whether it is managed, for the row with a primary key. -/
def ResourceRow.relabelled (row : ResourceRow) (id : Nat) (labels : DataDict) (managed : Bool) :
    ResourceRow :=
  if row.id = id then { row with labels := labels, managed := managed } else row

section Relabel

variable (row : ResourceRow) (id : Nat) (labels : DataDict) (managed : Bool)

@[simp] theorem relabelled_id : (row.relabelled id labels managed).id = row.id := by
  unfold ResourceRow.relabelled
  split
  · rfl
  · rfl

@[simp] theorem relabelled_provider : (row.relabelled id labels managed).provider = row.provider := by
  unfold ResourceRow.relabelled
  split
  · rfl
  · rfl

@[simp] theorem relabelled_externalId :
    (row.relabelled id labels managed).externalId = row.externalId := by
  unfold ResourceRow.relabelled
  split
  · rfl
  · rfl

end Relabel

def ResourceTable.relabel (table : ResourceTable) (id : Nat) (labels : DataDict) (managed : Bool) :
    ResourceTable where
  rows := table.rows.map fun row => row.relabelled id labels managed
  ids := by
    rw [List.map_map]
    simpa [Function.comp_def] using table.ids
  keys := by
    rw [List.map_map]
    simpa [Function.comp_def] using table.keys

/-- The resource that a service is found as. -/
def ResourceTable.ofService (table : ResourceTable) (choice : RowChoice) (serviceName : String) :
    Option ResourceRow :=
  (table.scalar choice fun row =>
    decide (row.provider = "compose" ∧ row.name = serviceName)).or
  (table.scalar choice fun row =>
    decide (row.provider = "compose" ∧ row.externalId = s!"self-healing:{serviceName}"))

/-- A call of `sync_resource_binding`, at its time. -/
structure SyncCall where
  client : Option ContainerListing
  serviceName : String
  now : String

/-- `sync_resource_binding`, with the row that it returns and the table that it leaves.  Nothing, if
it raises. -/
def ResourceTable.syncResourceBinding (table : ResourceTable) (choice : RowChoice)
    (call : SyncCall) : Option (Option ResourceRow × ResourceTable) :=
  match discoverContainer call.client call.serviceName (some "self-healing-agent") with
  | none => some (none, table)
  | some container =>
      match table.ofService choice call.serviceName with
      | none => some (none, table)
      | some resource =>
          let managed := decide (call.serviceName = "demo-api") && container.managed
          (boundLabels resource.labels container call.now).map fun labels =>
            (some { resource with labels := labels, managed := managed },
              table.relabel resource.id labels managed)

/-- The table after calls that were committed one after the other; what raises is rolled back. -/
def ResourceTable.synced (table : ResourceTable) (choice : RowChoice) (calls : List SyncCall) :
    ResourceTable :=
  calls.foldl (fun table call =>
    ((table.syncResourceBinding choice call).map Prod.snd).getD table) table

end SelfHealing
