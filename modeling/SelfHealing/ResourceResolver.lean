/-
The resource that an alert is about.

The hints of an alert are looked up one after the other, and where none of them leads to a resource
a placeholder is made, which nothing may act on.  A hint may be any value: what is no text cannot be
compared with a column, and raises.

A column of a limited length refuses what is longer; but it cuts the text off where there are only
blanks beyond the limit.
-/
import SelfHealing.Resources

namespace SelfHealing

/-- What `resolve` is called with; a hint that is not given is nothing. -/
structure ResolveArgs where
  resourceId : Option Nat := none
  externalId : Data := dataNull
  name : Data := dataNull
  service : Data := dataNull
  job : Data := dataNull
  labels : DataDict := []

/-- `needle in value`; of a number there is no `in`. -/
def dataContains (needle : String) : Data → Option Bool
  | .atom (.text s) => some (textContains needle s)
  | .seq items => some (items.any fun item => decide (textOf item = some needle))
  | .map entries => some (entries.any fun entry => decide (entry.1 = needle))
  | _ => none

namespace ResolveArgs

variable (args : ResolveArgs)

def svc : Data :=
  orElse (orElse args.service (args.labels.getOr "service" dataNull))
    (args.labels.getOr "app" dataNull)

def jb : Data := orElse args.job (args.labels.getOr "job" dataNull)

def extId : Data := orElse args.externalId (args.labels.getOr "resource_external_id" dataNull)

def resName : Data :=
  orElse (orElse args.name (args.labels.getOr "resource_name" dataNull)) args.svc

/-- `target_name`. -/
def targetName : Data :=
  orElse (orElse args.resName args.svc)
    (if truthy args.jb then dataText s!"job-{dataStr args.jb}"
    else dataText "unknown-resource")

/-- `target_ext`. -/
def targetExt : String := s!"compose:local:self-healing:{dataStr (args.targetName)}"

/-- The identifiers that are derived from the service. -/
def serviceExternalIds : List Data :=
  [dataText s!"self-healing:{dataStr args.svc}",
   dataText s!"compose:local:self-healing:{dataStr args.svc}", args.svc]

end ResolveArgs

/-! ### Lookups -/

/-- A query for one row, with the values that it compares with. -/
inductive Lookup
  | byId (id : Nat)
  | byExternalId (values : List Data)
  | byName (value : Data)
  /-- What raises before there is a query. -/
  | raises

/-- A text that the database can be sent. -/
def sendable (text : String) : Bool := !text.toList.contains (Char.ofNat 0)

/-- The texts that a column is compared with, if they can be sent. -/
def comparands (values : List Data) : Option (List String) :=
  (values.mapM textOf).filter fun texts => texts.all sendable

/-- The clause of a query; nothing, if it raises. -/
def Lookup.clause : Lookup → Option (ResourceRow → Bool)
  | .byId id => some fun row => decide (row.id = id)
  | .byExternalId values => (comparands values).map fun texts row => texts.contains row.externalId
  | .byName value => (comparands [value]).map fun texts row => texts.contains row.name
  | .raises => none

/-- The lookups, each after those that found nothing.  Nothing at all, if one raises. -/
def ResourceTable.lookUp (table : ResourceTable) (choice : RowChoice) :
    List Lookup → Option (Option ResourceRow)
  | [] => some none
  | lookup :: rest =>
      match lookup.clause with
      | none => none
      | some clause =>
          match table.scalar choice clause with
          | some row => some (some row)
          | none => table.lookUp choice rest

namespace ResolveArgs

variable (args : ResolveArgs)

/-- The known jobs. -/
def jobLookups : List Lookup :=
  match dataContains "demo-api" args.jb with
  | none => [.raises]
  | some true => [.byName (dataText "demo-api")]
  | some false =>
      match dataContains "demo-worker" args.jb with
      | none => [.raises]
      | some true => [.byName (dataText "demo-worker")]
      | some false => []

/-- The lookups of `resolve`, in order. -/
def lookups : List Lookup :=
  (match args.resourceId with
    | some id => [.byId id]
    | none => []) ++
  (if truthy args.extId then [.byExternalId [args.extId]] else []) ++
  (if truthy args.svc then [.byExternalId (args.serviceExternalIds)] else []) ++
  (if truthy args.resName then [.byName args.resName] else []) ++
  (if truthy args.jb then args.jobLookups else []) ++
  [.byExternalId [dataText (args.targetExt)]]

/-- The placeholder, with the identifier that it is given. -/
def placeholder (id : Nat) : Option ResourceRow :=
  (textOf (args.targetName)).map fun name =>
    { id := id
      provider := "compose"
      externalId := args.targetExt
      name := name
      environment := "local"
      labels := [("auto_provisioned", .atom (.bool true)), ("quarantined", .atom (.bool true)),
        ("unmanaged", .atom (.bool true)),
        ("raw_service_hint", dataText (dataStr args.svc)),
        ("raw_job_hint", dataText (dataStr args.jb))]
      managed := false }

end ResolveArgs

/-! ### Inserting -/

/-- What a column of type `varchar(limit)` keeps of a text. -/
def varchar (limit : Nat) (text : String) : Option String :=
  if text.length ≤ limit then some text
  else if (text.toList.drop limit).all fun c => decide (c = ' ') then
    some (String.ofList (text.toList.take limit))
  else none

/-- The row as the columns keep it. -/
def ResourceRow.stored (row : ResourceRow) : Option ResourceRow := do
  let texts := [row.externalId, row.name] ++ row.labels.filterMap fun label => textOf label.2
  if texts.all sendable then
    let externalId ← varchar 512 row.externalId
    let name ← varchar 128 row.name
    some { row with externalId := externalId, name := name }
  else none

/-- Add a row, which must be new under both constraints. -/
def ResourceTable.insert (table : ResourceTable) (row : ResourceRow) : Option ResourceTable :=
  if h : row.id ∉ table.rows.map ResourceRow.id ∧
      (row.provider, row.externalId) ∉ table.rows.map fun row => (row.provider, row.externalId) then
    some
      { rows := table.rows ++ [row]
        ids := by
          rw [List.map_append]
          refine List.Nodup.append table.ids (List.nodup_singleton _) ?_
          simpa using h.1
        keys := by
          rw [List.map_append]
          refine List.Nodup.append table.keys (List.nodup_singleton _) ?_
          simpa using h.2 }
  else none

/-- `ResourceResolver.resolve`, with the row that it returns and the table that it leaves.  Nothing,
if it raises. -/
def ResourceTable.resolve (table : ResourceTable) (choice : RowChoice) (args : ResolveArgs)
    (newId : Nat) : Option (ResourceRow × ResourceTable) :=
  match table.lookUp choice (args.lookups) with
  | none => none
  | some (some row) => some (row, table)
  | some none => do
      let row ← args.placeholder newId
      let stored ← row.stored
      let table ← table.insert stored
      some (row, table)

end SelfHealing
