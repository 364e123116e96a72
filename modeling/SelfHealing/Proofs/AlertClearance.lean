/-
When the check of the alerts has seen that they are cleared.

The check fails on a prohibited alert that is firing, and passes on everything else.  The client
gives it no alerts when it could not read them, so that an endpoint that does not answer passes as
one without alerts.  What decides is therefore whether there was a list to read, and whether one
alert in it made the client give up all of them.

Reading is all or nothing: one alert of a form that the client cannot read makes it give up the
list, and a list that it has given up is an empty one to the check.
-/
import SelfHealing.ActiveAlerts

namespace SelfHealing

open Canonical

/-- The endpoint has answered successfully, with these alerts. -/
def AlertsAnswer.Lists (answer : AlertsAnswer) (items : List Data) : Prop :=
  ∃ data inner : DataDict, answer.body = some (.map data) ∧ data.get? "data" = some (.map inner) ∧
    inner.get? "alerts" = some (.seq items)

/-- The alert is prohibited, and firing. -/
def ProhibitedFiring (profile : TelemetryProfile) (item : Data) : Prop :=
  ∃ name state, alertName item = some name ∧ alertState item = some state ∧
    name ∈ profile.prohibitedActiveAlerts ∧ textLower state = "firing"

/-- The check passes only if the endpoint has answered with alerts of which none is prohibited and
firing. -/
def ClearanceObserved (profile : TelemetryProfile) (answer : AlertsAnswer) : Prop :=
  evaluateAlerts profile (getActiveAlerts answer) = .pass →
    ∃ items, answer.Lists items ∧ ∀ item ∈ items, ¬ ProhibitedFiring profile item

variable {profile : TelemetryProfile} {answer : AlertsAnswer} {items items' : List Data}
  {alerts : List AlertState} {alert : AlertState} {item : Data}

/-! ### Reading the alerts -/

theorem readAlert_some_iff : readAlert item = some alert ↔
    alertName item = some alert.name ∧ alertState item = some alert.state ∧
      alertWellTyped item = true := by
  obtain ⟨name, state⟩ := alert
  unfold readAlert
  cases alertName item with
  | none => simp
  | some name' =>
      cases alertState item with
      | none => simp
      | some state' => by_cases h : alertWellTyped item = true <;> simp [h]

/-- What is read is what each alert is read as. -/
theorem readAlerts_mem_iff (h : readAlerts items = some alerts) :
    alert ∈ alerts ↔ ∃ item ∈ items, readAlert item = some alert := by
  induction items generalizing alerts with
  | nil =>
      cases h
      simp
  | cons item rest ih =>
      obtain ⟨alert', halert, h⟩ := Option.bind_eq_some_iff.mp h
      obtain ⟨alerts', halerts, h⟩ := Option.bind_eq_some_iff.mp h
      cases h
      rw [List.mem_cons, ih halerts, List.exists_mem_cons_iff, halert, Option.some.injEq, eq_comm]

/-- One alert that cannot be read is enough for none to be. -/
theorem readAlerts_eq_none_iff :
    readAlerts items = none ↔ ∃ item ∈ items, readAlert item = none := by
  induction items with
  | nil => simp [readAlerts]
  | cons item rest ih =>
      rw [List.exists_mem_cons_iff, ← ih]
      cases hitem : readAlert item with
      | none => simp [readAlerts, hitem]
      | some alert => cases hrest : readAlerts rest <;> simp [readAlerts, hitem, hrest]

/-- A text is no alert. -/
theorem readAlert_text (s : String) : readAlert (dataText s) = none := rfl

/-- What alerts are read from is a list. -/
theorem seq_of_alert {value : Data} (hvalue : iterated value = some items)
    (hread : readAlerts items = some alerts) (halert : alert ∈ alerts) : value = .seq items := by
  obtain ⟨item, hmem, hsome⟩ := (readAlerts_mem_iff hread).mp halert
  cases value with
  | seq items' => rw [Option.some.inj hvalue]
  | map entries =>
      cases hvalue
      obtain ⟨entry, -, rfl⟩ := List.mem_map.mp hmem
      rw [readAlert_text] at hsome
      cases hsome
  | atom a =>
      cases a with
      | text s =>
          cases hvalue
          obtain ⟨c, -, rfl⟩ := List.mem_map.mp hmem
          rw [readAlert_text] at hsome
          cases hsome
      | _ => cases hvalue

/-! ### The client -/

theorem AlertsAnswer.Lists.unique (h : answer.Lists items) (h' : answer.Lists items') :
    items = items' := by
  obtain ⟨data, inner, hbody, hdata, hinner⟩ := h
  obtain ⟨data', inner', hbody', hdata', hinner'⟩ := h'
  rw [hbody] at hbody'
  cases hbody'
  rw [hdata] at hdata'
  cases hdata'
  rw [hinner] at hinner'
  cases hinner'
  rfl

theorem AlertsAnswer.Lists.read (h : answer.Lists items) :
    getActiveAlerts answer = (readAlerts items).getD [] := by
  obtain ⟨data, inner, hbody, hdata, hinner⟩ := h
  unfold getActiveAlerts
  rw [hbody]
  show (readAlertsBody (.map data)).getD [] = _
  simp only [readAlertsBody, dictOf, DataDict.getOr, bind, Option.bind_some, hdata,
    Option.getD_some, hinner, iterated]

/-- If there is an alert, there is a list that it was read from. -/
theorem lists_of_alert (h : alert ∈ getActiveAlerts answer) : ∃ items, answer.Lists items := by
  unfold getActiveAlerts at h
  cases hbody : answer.body.bind readAlertsBody with
  | none =>
      rw [hbody] at h
      cases h
  | some alerts =>
      rw [hbody, Option.getD_some] at h
      obtain ⟨body, hbody, hread⟩ := Option.bind_eq_some_iff.mp hbody
      obtain ⟨data, hdata, hread⟩ := Option.bind_eq_some_iff.mp hread
      obtain ⟨inner, hinner, hread⟩ := Option.bind_eq_some_iff.mp hread
      obtain ⟨items, hitems, hread⟩ := Option.bind_eq_some_iff.mp hread
      have hseq := seq_of_alert hitems hread h
      have hne : items ≠ [] := by
        rintro rfl
        cases hread
        cases h
      have halerts : inner.get? "alerts" = some (.seq items) := by
        cases hget : inner.get? "alerts" with
        | some value =>
            rw [DataDict.getOr, hget, Option.getD_some] at hseq
            rw [hseq]
        | none =>
            rw [DataDict.getOr, hget, Option.getD_none] at hseq
            cases hseq
            exact absurd rfl hne
      have hget : data.get? "data" = some (.map inner) := by
        cases hget : data.get? "data" with
        | some value =>
            rw [DataDict.getOr, hget, Option.getD_some] at hinner
            cases value with
            | map entries => rw [Option.some.inj hinner]
            | seq items => cases hinner
            | atom a => cases hinner
        | none =>
            rw [DataDict.getOr, hget, Option.getD_none] at hinner
            cases hinner
            cases halerts
      cases body with
      | map entries =>
          cases hdata
          exact ⟨items, data, inner, hbody, hget, halerts⟩
      | seq items => cases hdata
      | atom a => cases hdata

/-! ### The check

With nothing to look at the check passes, and that is where the two directions part.  A list that
was read and holds no prohibited alert is a clear one.  A list that could not be read is handed
over as an empty one, and to the check the two are the same.
-/

theorem evaluateAlerts_pass_iff : evaluateAlerts profile alerts = .pass ↔
    ∀ alert ∈ alerts, ¬ (alert.name ∈ profile.prohibitedActiveAlerts ∧
      textLower alert.state = "firing") := by
  unfold evaluateAlerts
  by_cases hany : (alerts.any fun alert => profile.prohibitedActiveAlerts.contains alert.name &&
      decide (textLower alert.state = "firing")) = true
  · rw [if_pos hany]
    simp only [List.any_eq_true, Bool.and_eq_true, List.contains_iff_mem, decide_eq_true_eq] at hany
    obtain ⟨alert, hmem, hfiring⟩ := hany
    refine ⟨fun h => ?_, fun h => absurd hfiring (h alert hmem)⟩
    cases h
  · rw [if_neg hany]
    simp only [List.any_eq_true, Bool.and_eq_true, List.contains_iff_mem, decide_eq_true_eq] at hany
    exact ⟨fun _ alert hmem hfiring => hany ⟨alert, hmem, hfiring⟩, fun _ => rfl⟩

/-- Without alerts the check passes. -/
theorem evaluateAlerts_nil : evaluateAlerts profile [] = .pass := rfl

/-- When all alerts of the list are read, the check sees each of them. -/
theorem clear_of_pass (hall : ∀ item ∈ items, readAlert item ≠ none)
    (hpass : evaluateAlerts profile ((readAlerts items).getD []) = .pass) :
    ∀ item ∈ items, ¬ ProhibitedFiring profile item := by
  cases hread : readAlerts items with
  | none =>
      obtain ⟨item, hmem, hnone⟩ := readAlerts_eq_none_iff.mp hread
      exact absurd hnone (hall item hmem)
  | some alerts =>
      rw [hread, Option.getD_some, evaluateAlerts_pass_iff] at hpass
      rintro item hmem ⟨name, state, hname, hstate, hprohibited, hfiring⟩
      cases hitem : readAlert item with
      | none => exact hall item hmem hitem
      | some alert =>
          have halert := (readAlerts_mem_iff hread).mpr ⟨item, hmem, hitem⟩
          obtain ⟨hname', hstate', -⟩ := readAlert_some_iff.mp hitem
          rw [hname] at hname'
          rw [hstate] at hstate'
          cases hname'
          cases hstate'
          exact hpass alert halert ⟨hprohibited, hfiring⟩

/-- **The alerts are seen to be cleared when there is a list that can be read.**  The check passes
only after a successful answer without a prohibited alert that is firing, exactly if the endpoint
has answered with a list, and of its alerts each can be read, or none is prohibited and firing. -/
theorem clearance_observed_iff (profile : TelemetryProfile) (answer : AlertsAnswer) :
    ClearanceObserved profile answer ↔
      ∃ items, answer.Lists items ∧
        ((∀ item ∈ items, readAlert item ≠ none) ∨
          ∀ item ∈ items, ¬ ProhibitedFiring profile item) := by
  constructor
  · intro hobserved
    by_cases hlists : ∃ items, answer.Lists items
    · obtain ⟨items, hitems⟩ := hlists
      refine ⟨items, hitems, ?_⟩
      by_cases hall : ∀ item ∈ items, readAlert item ≠ none
      · exact Or.inl hall
      · have hnone : readAlerts items = none := by
          rw [readAlerts_eq_none_iff]
          push Not at hall
          exact hall
        have hpass : evaluateAlerts profile (getActiveAlerts answer) = .pass := by
          rw [hitems.read, hnone]
          exact evaluateAlerts_nil
        obtain ⟨items', hitems', hclear⟩ := hobserved hpass
        rw [hitems.unique hitems']
        exact Or.inr hclear
    · have hempty : getActiveAlerts answer = [] := by
        refine List.eq_nil_iff_forall_not_mem.mpr fun alert halert => ?_
        exact hlists (lists_of_alert halert)
      have hpass : evaluateAlerts profile (getActiveAlerts answer) = .pass := by
        rw [hempty]
        exact evaluateAlerts_nil
      obtain ⟨items, hitems, -⟩ := hobserved hpass
      exact absurd ⟨items, hitems⟩ hlists
  · rintro ⟨items, hitems, hall | hclear⟩ hpass
    · rw [hitems.read] at hpass
      exact ⟨items, hitems, clear_of_pass hall hpass⟩
    · exact ⟨items, hitems, hclear⟩

/-- Prometheus cannot be reached, and the check of the default profile passes. -/
theorem unreachable_alerts_pass :
    evaluateAlerts defaultTelemetryProfile (getActiveAlerts .connectError) = .pass ∧
      ¬ ClearanceObserved defaultTelemetryProfile .connectError := by
  refine ⟨rfl, fun hobserved => ?_⟩
  obtain ⟨items, ⟨data, inner, hbody, -, -⟩, -⟩ := hobserved rfl
  cases hbody

end SelfHealing
