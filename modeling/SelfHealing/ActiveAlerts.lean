/-
The alerts that are active.

The client asks Prometheus for its alerts and makes records of them.  Whatever goes wrong on the
way, in the request, in the body or in a single alert, is logged only, and the answer is that there
are none.
-/
import SelfHealing.Payloads
import SelfHealing.Telemetry

namespace SelfHealing

open Canonical

/-! ### Alerts -/

/-- The labels of an alert. -/
def alertLabels (item : Data) : Option DataDict := do
  let fields ← dictOf item
  dictOf (fields.getOr "labels" (.map []))

def alertName (item : Data) : Option String := do
  let labels ← alertLabels item
  textOf (labels.getOr "alertname" (dataText "UnknownAlert"))

def alertState (item : Data) : Option String := do
  let fields ← dictOf item
  textOf (fields.getOr "state" (dataText "inactive"))

/-- What else the record of an alert must hold: texts as labels and annotations, and a text or
nothing as the value.  A time that cannot be read is left out. -/
def alertWellTyped (item : Data) : Bool :=
  match dictOf item with
  | none => false
  | some fields =>
      (alertLabels item).any DataDict.allTexts &&
        (dictOf (fields.getOr "annotations" (.map []))).any DataDict.allTexts &&
        match fields.getOr "value" dataNull with
        | .atom .null | .atom (.text _) => true
        | _ => false

/-- The record of an alert, unless something is raised on the way. -/
def readAlert (item : Data) : Option AlertState := do
  let name ← alertName item
  let state ← alertState item
  if alertWellTyped item then some ⟨name, state⟩ else none

def readAlerts : List Data → Option (List AlertState)
  | [] => some []
  | item :: rest => do
      let alert ← readAlert item
      let alerts ← readAlerts rest
      some (alert :: alerts)

/-- What a loop over the value runs through. -/
def iterated : Data → Option (List Data)
  | .seq items => some items
  | .map entries => some (entries.map fun entry => dataText entry.1)
  | .atom (.text s) => some (s.toList.map fun c => dataText (String.singleton c))
  | .atom _ => none

def readAlertsBody (body : Data) : Option (List AlertState) := do
  let data ← dictOf body
  let inner ← dictOf (data.getOr "data" (.map []))
  let items ← iterated (inner.getOr "alerts" (.seq []))
  readAlerts items

/-! ### The client -/

/-- What comes of the request: a response with a status and a body, which may be no JSON, or an
exception. -/
inductive AlertsAnswer
  | timeout
  | connectError
  | failed
  | response (statusCode : Nat) (body : Option Data)

/-- The body that is read on: `raise_for_status` lets pass what was successful. -/
def AlertsAnswer.body : AlertsAnswer → Option Data
  | .timeout | .connectError | .failed => none
  | .response statusCode body => if 200 ≤ statusCode ∧ statusCode < 300 then body else none

/-- `get_active_alerts`. -/
def getActiveAlerts (answer : AlertsAnswer) : List AlertState :=
  (answer.body.bind readAlertsBody).getD []

end SelfHealing
