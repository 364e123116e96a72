/-
The timeline of an incident, page by page.

The entries of the audit trail are numbered in the order in which they are written.  The console
shows those of an incident from the latest one on, and gives with each page where the next begins.
-/
import SelfHealing.Lib.Paging
import SelfHealing.Redaction

namespace SelfHealing

/-- A row of `audit_entries`, with its identifiers and times as they are printed. -/
structure AuditEntry where
  id : String
  createdAt : String
  sequence : Int
  incidentId : Option String
  actor : String
  operation : String
  entityType : String
  entityId : String
  details : DataDict

/-- The columns, each with its name. -/
def AuditEntry.columns (entry : AuditEntry) : DataDict :=
  [("id", dataText entry.id), ("created_at", dataText entry.createdAt),
   ("sequence", .atom (.int entry.sequence)), ("incident_id", dataText? entry.incidentId),
   ("actor", dataText entry.actor), ("operation", dataText entry.operation),
   ("entity_type", dataText entry.entityType), ("entity_id", dataText entry.entityId),
   ("details", .map entry.details)]

/-- `row`, of the columns of a record. -/
def row (alnum : Char → Bool) (columns : DataDict) : Data :=
  redactSensitiveData id alnum (.map columns)

structure TimelinePage where
  items : List Data
  nextCursor : Option Data

/-- The entries of an incident. -/
def entriesOf (incidentId : String) (table : List AuditEntry) : List AuditEntry :=
  table.filter fun entry => decide (entry.incidentId = some incidentId)

/-- The clause that `if before:` adds. -/
def olderThan (before : Option Int) (stmt : List AuditEntry) : List AuditEntry :=
  match before with
  | some before =>
      if before ≠ 0 then stmt.filter fun entry => decide (entry.sequence < before) else stmt
  | none => stmt

/-- `timeline`.  A request with a `before` or a `limit` that is out of its range is refused. -/
def timeline (alnum : Char → Bool) (table : List AuditEntry) (incidentId : String)
    (before : Option Int) (limit : Nat) : Option TimelinePage :=
  if before.all (fun before => decide (0 < before)) && decide (1 ≤ limit ∧ limit ≤ 100) then
    let stmt := olderThan before (entriesOf incidentId table)
    let items := ((Paging.descending AuditEntry.sequence stmt).take (limit + 1)).map
      fun entry => row alnum entry.columns
    some
      { items := items.take limit
        nextCursor :=
          if limit < items.length then
            (items[limit - 1]?.bind dictOf).bind fun item => item.get? "sequence"
          else none }
  else none

/-- Following `next_cursor` until it is null, where the request number `n` finds `tables n`.
Nothing, when the fuel runs out before or a request is refused. -/
def followCursor (alnum : Char → Bool) (tables : Nat → List AuditEntry) (incidentId : String)
    (limit : Nat) : Nat → Nat → Option Int → Option (List (List Data))
  | 0, _, _ => none
  | fuel + 1, n, before =>
      match timeline alnum (tables n) incidentId before limit with
      | none => none
      | some page =>
          match page.nextCursor with
          | none => some [page.items]
          | some (.atom (.int next)) =>
              (followCursor alnum tables incidentId limit fuel (n + 1) (some next)).map
                (page.items :: ·)
          | some _ => none

end SelfHealing
