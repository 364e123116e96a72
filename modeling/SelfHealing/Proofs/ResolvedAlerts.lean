/-
What is kept of the notification that an alert is resolved.

The status is not among the columns by which an event is known.  An alert that starts at a given
time has the same key when it fires and when it is resolved, so the resolved notification returns
the row of the firing one and leaves no row of its own.

What a row records is the status of the first notification that was ingested under its key, as the
redactor leaves it.  So whether a resolved notification is kept depends on the keys and on the
status of that first one alone (`resolved_kept_iff`).
-/
import SelfHealing.EventStore
import SelfHealing.Proofs.FingerprintIdentity

namespace SelfHealing

open Masking

section ResolvedAlerts

variable (alnum : Char → Bool) (sha256 : ByteArray → String) (dedupWindowSeconds : Int)

/-- The event of a notification, if it is ingested. -/
def Notification.ingested (n : Notification) : Option NormalizedAlert :=
  (n.normalize alnum sha256 dedupWindowSeconds).toOption.filter
    fun normalized => isDigest normalized.event.fingerprint

/-- The payload records the status of an alert that is resolved. -/
def recordsResolved : Data → Bool
  | .map entries => decide ((DataDict.get? entries "status").bind textOf = some "resolved")
  | _ => false

/-- A firing notification, and a resolved one of the same alert after it. -/
structure ResolvedLater (run : List Notification) (firing resolved : Notification) : Prop where
  order : [firing, resolved].Sublist run
  fires : firing.alert.status = "firing"
  resolves : resolved.alert.status = "resolved"
  labels : firing.alert.labels = resolved.alert.labels
  fingerprint : firing.alert.fingerprint = resolved.alert.fingerprint
  startsAt : firing.alert.startsAt = resolved.alert.startsAt

/-- Resolved notifications are kept: each has a row that records that the alert is resolved, which
is another one than that of the firing notification. -/
def KeepsResolved (run : List Notification) : Prop :=
  ∀ firing resolved fired event, ResolvedLater run firing resolved →
    firing.ingested alnum sha256 dedupWindowSeconds = some fired →
    resolved.ingested alnum sha256 dedupWindowSeconds = some event →
    ∃ row ∈ (ingestAll alnum sha256 dedupWindowSeconds run).rows,
      row.key = event.event.key ∧ recordsResolved row.payload = true ∧
      ∀ other ∈ (ingestAll alnum sha256 dedupWindowSeconds run).rows,
        other.key = fired.event.key → other.id ≠ row.id

/-- The first notification of a run that is ingested under a key. -/
def firstUnder (run : List Notification) (key : EventKey) : Option Notification :=
  run.find? fun n => (n.ingested alnum sha256 dedupWindowSeconds).any
    fun normalized => decide (normalized.event.key = key)

/-- The first event of a run under a key. -/
def firstEvent (run : List Notification) (key : EventKey) : Option NormalizedAlert :=
  (run.filterMap (Notification.ingested alnum sha256 dedupWindowSeconds)).find?
    fun normalized => decide (normalized.event.key = key)

/-- The notification says that its alert is resolved, as the redactor leaves its status. -/
def Notification.saysResolved (n : Notification) : Bool :=
  decide (EventRedactor.redactString alnum n.alert.status = "resolved")

/-! ### The table of a run -/

/-- Rows have different keys, and different identifiers that are all drawn before. -/
structure EventTable.Wellformed (table : EventTable) : Prop where
  keys : (table.rows.map uniqueEvents.key).Nodup
  ids : (table.rows.map EventRow.id).Nodup
  drawn : ∀ row ∈ table.rows, row.id < table.nextId

theorem ingest_eq (table : EventTable) (n : Notification) :
    table.ingest alnum sha256 dedupWindowSeconds n =
      match n.ingested alnum sha256 dedupWindowSeconds with
      | none => table
      | some normalized =>
          { rows := uniqueEvents.upsert (table.values "webhook:alertmanager" normalized) table.rows
            nextId := table.nextId + 1 } := by
  unfold EventTable.ingest Notification.ingested
  cases n.normalize alnum sha256 dedupWindowSeconds with
  | error e => rfl
  | ok normalized =>
      simp only [EventTable.storeEvent]
      cases hdigest : isDigest normalized.event.fingerprint with
      | false => simp [Except.toOption, Option.filter, hdigest]
      | true =>
          simp only [Except.toOption, Option.filter, hdigest]
          cases uniqueEvents.find normalized.event.key table.rows with
          | none => rfl
          | some existing => rfl

theorem rows_upsert (new : EventRow) (rows : List EventRow) :
    uniqueEvents.upsert new rows = rows ∨ uniqueEvents.upsert new rows = rows ++ [new] := by
  induction rows with
  | nil => exact Or.inr rfl
  | cons row rows ih =>
      unfold Upsert.Table.upsert
      split
      · exact Or.inl rfl
      · rcases ih with h | h
        · exact Or.inl (by rw [h])
        · exact Or.inr (by rw [h]; rfl)

theorem EventTable.Wellformed.ingest {table : EventTable} (h : table.Wellformed)
    (n : Notification) : (table.ingest alnum sha256 dedupWindowSeconds n).Wellformed := by
  rw [ingest_eq]
  cases n.ingested alnum sha256 dedupWindowSeconds with
  | none => exact h
  | some normalized =>
      dsimp only
      have hkeys := Upsert.keys_nodup_upsert uniqueEvents
        (table.values "webhook:alertmanager" normalized) h.keys
      rcases rows_upsert (table.values "webhook:alertmanager" normalized) table.rows with
        hrows | hrows
      · rw [hrows]
        exact ⟨h.keys, h.ids, fun row hrow => Nat.lt_succ_of_lt (h.drawn row hrow)⟩
      · refine ⟨hkeys, ?_, ?_⟩
        · rw [hrows, List.map_append, List.nodup_append]
          refine ⟨h.ids, List.nodup_singleton _, ?_⟩
          intro id hid id' hid' heq
          obtain ⟨row, hrow, rfl⟩ := List.mem_map.mp hid
          rw [List.map_singleton, List.mem_singleton] at hid'
          have hlt := h.drawn row hrow
          rw [heq, hid'] at hlt
          exact Nat.lt_irrefl _ hlt
        · intro row hrow
          rw [hrows, List.mem_append, List.mem_singleton] at hrow
          rcases hrow with hrow | rfl
          · exact Nat.lt_succ_of_lt (h.drawn row hrow)
          · exact Nat.lt_succ_self _

theorem ingestAll_snoc (run : List Notification) (n : Notification) :
    ingestAll alnum sha256 dedupWindowSeconds (run ++ [n]) =
      (ingestAll alnum sha256 dedupWindowSeconds run).ingest alnum sha256 dedupWindowSeconds n :=
  List.foldl_concat ..

theorem ingestAll_wellformed (run : List Notification) :
    (ingestAll alnum sha256 dedupWindowSeconds run).Wellformed := by
  induction run using List.reverseRecOn with
  | nil => exact ⟨List.nodup_nil, List.nodup_nil, List.forall_mem_nil _⟩
  | append_singleton run n ih =>
      rw [ingestAll_snoc]
      exact ih.ingest alnum sha256 dedupWindowSeconds n

/-- Under a key there is the document of the first event that had it. -/
theorem find_ingestAll (run : List Notification) (key : EventKey) :
    (uniqueEvents.find key (ingestAll alnum sha256 dedupWindowSeconds run).rows).map
        EventRow.payload =
      (firstEvent alnum sha256 dedupWindowSeconds run key).map NormalizedAlert.payload := by
  induction run using List.reverseRecOn with
  | nil => rfl
  | append_singleton run n ih =>
      unfold firstEvent at ih ⊢
      rw [ingestAll_snoc, ingest_eq, List.filterMap_append, List.find?_append]
      cases hn : n.ingested alnum sha256 dedupWindowSeconds with
      | none =>
          rw [List.filterMap_cons_none hn, List.filterMap_nil, List.find?_nil, Option.or_none]
          exact ih
      | some normalized =>
          rw [List.filterMap_cons_some hn, List.filterMap_nil]
          have hkeyOf : uniqueEvents.key ((ingestAll alnum sha256 dedupWindowSeconds run).values
              "webhook:alertmanager" normalized) = normalized.event.key := rfl
          dsimp only
          rw [Upsert.find_upsert, hkeyOf]
          cases hfind : uniqueEvents.find key
              (ingestAll alnum sha256 dedupWindowSeconds run).rows with
          | none =>
              rw [hfind] at ih
              rw [Option.map_eq_none_iff.mp ih.symm, Option.none_or]
              by_cases hkey : normalized.event.key = key
              · rw [if_pos hkey, List.find?_cons_of_pos (by simpa using hkey)]
                rfl
              · rw [if_neg hkey, List.find?_cons_of_neg (by simpa using hkey)]
                rfl
          | some row =>
              rw [hfind] at ih
              obtain ⟨first, hfirst, hpayload⟩ := Option.map_eq_some_iff.mp ih.symm
              rw [hfirst, Option.some_or, Option.map_some, hpayload]
              split
              · rfl
              · rfl

/-! ### The key -/

/-- The key of the event that is made of a notification. -/
def Notification.key (n : Notification) : EventKey :=
  let labels := n.commonLabels.merge n.alert.labels
  let eventType := labels.getOr "alertname" (dataText "UnknownAlert")
  let scenarioId := labels.getOr "scenario_id" dataNull
  { source := .alertmanager
    resourceId := n.resourceId
    fingerprint := computeFingerprint sha256 .alertmanager n.resourceId eventType scenarioId
      [("alertname", eventType), ("scenario_id", scenarioId),
       ("service", orElse (labels.getOr "service" dataNull) (labels.getOr "job" dataNull)),
       ("instance", labels.getOr "instance" dataNull),
       ("fingerprint_hint", dataText? n.alert.fingerprint)]
    dedupWindow := computeDedupWindow (n.alert.startsAt.elim n.now Datetime.time)
      dedupWindowSeconds }

theorem normalize_of_ingested {n : Notification} {event : NormalizedAlert}
    (h : n.ingested alnum sha256 dedupWindowSeconds = some event) :
    n.normalize alnum sha256 dedupWindowSeconds = .ok event := by
  have hsome := (Option.filter_eq_some_iff.mp h).1
  cases hn : n.normalize alnum sha256 dedupWindowSeconds with
  | error e =>
      rw [hn] at hsome
      cases hsome
  | ok normalized =>
      rw [hn] at hsome
      cases hsome
      rfl

theorem ingested_key {n : Notification} {event : NormalizedAlert}
    (h : n.ingested alnum sha256 dedupWindowSeconds = some event) :
    event.event.key = n.key sha256 dedupWindowSeconds := by
  have hok := normalize_of_ingested alnum sha256 dedupWindowSeconds h
  obtain ⟨hsource, hresource, hfingerprint, hwindow, -⟩ := normalizeAlertmanagerAlert_key hok
  unfold NormalizedEventPayload.key Notification.key
  rw [hsource, hresource, hfingerprint, hwindow]
  rfl

/-! ### What is kept

A row under the key of the resolved notification was left by the first one under that key, and it
records the status of that one.  It is another row than that of the firing notification exactly if
the keys differ, as no two rows have the same key.
-/

/-- The resolved notification has another key than the firing one, and the first notification under
its key says that an alert is resolved. -/
def ResolvedIsFirst (run : List Notification) (firing resolved : Notification) : Prop :=
  firing.key sha256 dedupWindowSeconds ≠ resolved.key sha256 dedupWindowSeconds ∧
    ∃ first, firstUnder alnum sha256 dedupWindowSeconds run
      (resolved.key sha256 dedupWindowSeconds) = some first ∧ first.saysResolved alnum = true

/-- Redaction keeps the entry `status` of a payload, and leaves its text to `redact_string`. -/
theorem recordsResolved_payloadData (alert : AlertItem) (labels annotations : DataDict) :
    recordsResolved (redactSensitiveData id alnum (alert.payloadData labels annotations)) =
      decide (EventRedactor.redactString alnum alert.status = "resolved") := by
  have hshown : isSensitiveKey "status" = false := by decide
  have hmasked : ((eventMask id alnum).entry ("status", dataText alert.status)).2 =
      dataText (EventRedactor.redactString alnum alert.status) := by
    simp [Mask.entry, eventMask, hshown, Mask.apply, DataAtom.redact, dataText]
  obtain ⟨entries, hentries, hnames, hmem⟩ : ∃ entries : DataDict,
      alert.payloadData labels annotations = .map entries ∧
        (entries.map fun entry => (eventMask id alnum).rename entry.1).Nodup ∧
        ("status", dataText alert.status) ∈ entries :=
    ⟨_, rfl, by simp [eventMask], by simp⟩
  have hstatus : DataDict.get? ((eventMask id alnum).applyEntries [] entries) "status" =
      some (dataText (EventRedactor.redactString alnum alert.status)) :=
    (lookup_applyEntries hnames hmem).trans (congrArg some hmasked)
  rw [hentries, redactSensitiveData, Mask.apply, recordsResolved, hstatus]
  exact decide_eq_decide.mpr Option.some_inj

/-- What a row records of a notification. -/
theorem recordsResolved_ingested {n : Notification} {event : NormalizedAlert}
    (h : n.ingested alnum sha256 dedupWindowSeconds = some event) :
    recordsResolved event.payload = n.saysResolved alnum := by
  obtain ⟨-, -, -, -, hpayload⟩ :=
    normalizeAlertmanagerAlert_key (normalize_of_ingested alnum sha256 dedupWindowSeconds h)
  rw [hpayload]
  exact recordsResolved_payloadData alnum n.alert _ _

theorem firstEvent_resolved (run : List Notification) (key : EventKey) :
    (∃ first, firstEvent alnum sha256 dedupWindowSeconds run key = some first ∧
      recordsResolved first.payload = true) ↔
    ∃ first, firstUnder alnum sha256 dedupWindowSeconds run key = some first ∧
      first.saysResolved alnum = true := by
  have hfirst : firstEvent alnum sha256 dedupWindowSeconds run key =
      (firstUnder alnum sha256 dedupWindowSeconds run key).bind
        (Notification.ingested alnum sha256 dedupWindowSeconds) := List.find?_filterMap ..
  rw [hfirst]
  constructor
  · rintro ⟨event, hevent, hresolved⟩
    obtain ⟨n, hn, hingested⟩ := Option.bind_eq_some_iff.mp hevent
    exact ⟨n, hn, (recordsResolved_ingested _ _ _ hingested).symm.trans hresolved⟩
  · rintro ⟨n, hn, hresolved⟩
    unfold firstUnder at hn
    have hany := List.find?_some hn
    obtain ⟨event, hingested, -⟩ := (Option.any_eq_true _ _).mp hany
    exact ⟨event, Option.bind_eq_some_iff.mpr ⟨n, hn, hingested⟩,
      (recordsResolved_ingested _ _ _ hingested).trans hresolved⟩

theorem resolvedIsFirst_iff (run : List Notification) {firing resolved : Notification}
    {fired event : NormalizedAlert}
    (hfired : firing.ingested alnum sha256 dedupWindowSeconds = some fired)
    (hevent : resolved.ingested alnum sha256 dedupWindowSeconds = some event) :
    (∃ row ∈ (ingestAll alnum sha256 dedupWindowSeconds run).rows,
      row.key = event.event.key ∧ recordsResolved row.payload = true ∧
      ∀ other ∈ (ingestAll alnum sha256 dedupWindowSeconds run).rows,
        other.key = fired.event.key → other.id ≠ row.id) ↔
    ResolvedIsFirst alnum sha256 dedupWindowSeconds run firing resolved := by
  have hwell := ingestAll_wellformed alnum sha256 dedupWindowSeconds run
  have hdocument := find_ingestAll alnum sha256 dedupWindowSeconds run event.event.key
  unfold ResolvedIsFirst
  rw [← firstEvent_resolved, ← ingested_key alnum sha256 dedupWindowSeconds hfired,
    ← ingested_key alnum sha256 dedupWindowSeconds hevent]
  constructor
  · rintro ⟨row, hrow, hkey, hresolved, hother⟩
    refine ⟨fun heq => hother row hrow (hkey.trans heq.symm) rfl, ?_⟩
    rw [(Upsert.find_eq_some_iff uniqueEvents hwell.keys).mpr ⟨hrow, hkey⟩] at hdocument
    obtain ⟨first, hfirst, hpayload⟩ := Option.map_eq_some_iff.mp hdocument.symm
    exact ⟨first, hfirst, by rw [hpayload]; exact hresolved⟩
  · rintro ⟨hne, first, hfirst, hresolved⟩
    rw [hfirst] at hdocument
    obtain ⟨row, hfind, hpayload⟩ := Option.map_eq_some_iff.mp hdocument
    obtain ⟨hrow, hkey⟩ := Upsert.mem_of_find uniqueEvents hfind
    refine ⟨row, hrow, hkey, by rw [hpayload]; exact hresolved, ?_⟩
    intro other hother hfired hid
    rw [List.inj_on_of_nodup_map hwell.ids hother hrow hid] at hfired
    exact hne (hfired.symm.trans hkey)

/-- **A resolved notification is kept** if and only if its key is not that of the firing one, and
the first notification under its key was a resolved one too. -/
theorem resolved_kept_iff (run : List Notification) :
    KeepsResolved alnum sha256 dedupWindowSeconds run ↔
      ∀ firing resolved fired event, ResolvedLater run firing resolved →
        firing.ingested alnum sha256 dedupWindowSeconds = some fired →
        resolved.ingested alnum sha256 dedupWindowSeconds = some event →
        ResolvedIsFirst alnum sha256 dedupWindowSeconds run firing resolved := by
  unfold KeepsResolved
  constructor
  · intro hkeeps firing resolved fired event hlater hfired hevent
    exact (resolvedIsFirst_iff _ _ _ run hfired hevent).mp
      (hkeeps firing resolved fired event hlater hfired hevent)
  · intro hfirst firing resolved fired event hlater hfired hevent
    exact (resolvedIsFirst_iff _ _ _ run hfired hevent).mpr
      (hfirst firing resolved fired event hlater hfired hevent)

/-- Where the alert starts at a given time, the resolved notification has the key of the firing one,
unless the labels of the whole notification or the resource have changed: it is not kept. -/
theorem ResolvedLater.not_first {run : List Notification} {firing resolved : Notification}
    (h : ResolvedLater run firing resolved) (hcommon : firing.commonLabels = resolved.commonLabels)
    (hresource : firing.resourceId = resolved.resourceId)
    (hstart : resolved.alert.startsAt.isSome) :
    ¬ ResolvedIsFirst alnum sha256 dedupWindowSeconds run firing resolved := by
  rintro ⟨hne, -⟩
  obtain ⟨start, hsome⟩ := Option.isSome_iff_exists.mp hstart
  refine hne ?_
  unfold Notification.key
  rw [h.labels, h.fingerprint, h.startsAt, hsome, hcommon, hresource]
  rfl

/-- An alert fires, and a minute later it is resolved. -/
def firedAndResolved : List Notification :=
  [{ alert :=
       { status := "firing"
         labels := [("alertname", dataText "ContainerDown"), ("service", dataText "demo-api")]
         startsAt := some { wall := 1767225600000000, offset := some 0 } }
     resourceId := 1
     now := 1767225605000000 },
   { alert :=
       { status := "resolved"
         labels := [("alertname", dataText "ContainerDown"), ("service", dataText "demo-api")]
         startsAt := some { wall := 1767225600000000, offset := some 0 }
         endsAt := some { wall := 1767225660000000, offset := some 0 } }
     resourceId := 1
     now := 1767225665000000 }]

theorem firedAndResolved_ingested {sha256 : ByteArray → String}
    (hsha : ∀ bytes, isDigest (sha256 bytes) = true) :
    ∀ n ∈ firedAndResolved, ∃ event, n.ingested Char.isAlphanum sha256 60 = some event := by
  intro n hn
  have hok : ∃ event, n.normalize Char.isAlphanum sha256 60 = .ok event ∧
      ∃ bytes, event.event.fingerprint = sha256 bytes := by
    unfold firedAndResolved at hn
    rcases List.mem_cons.mp hn with rfl | hn
    · exact ⟨_, rfl, _, rfl⟩
    · rw [List.mem_singleton] at hn
      subst hn
      exact ⟨_, rfl, _, rfl⟩
  obtain ⟨event, hevent, bytes, hbytes⟩ := hok
  refine ⟨event, ?_⟩
  unfold Notification.ingested
  rw [hevent]
  exact Option.filter_eq_some_iff.mpr ⟨rfl, by rw [hbytes]; exact hsha bytes⟩

/-- Whatever digests there are, nothing is left of the resolved notification. -/
theorem resolved_notification_lost :
    ¬ ∃ sha256 : ByteArray → String, (∀ bytes, isDigest (sha256 bytes) = true) ∧
      KeepsResolved Char.isAlphanum sha256 60 firedAndResolved := by
  rintro ⟨sha256, hsha, hkeeps⟩
  have hlater : ResolvedLater firedAndResolved (firedAndResolved.head (by decide))
      (firedAndResolved.getLast (by decide)) :=
    ⟨List.Sublist.refl _, rfl, rfl, rfl, rfl, rfl⟩
  obtain ⟨fired, hfired⟩ := firedAndResolved_ingested hsha _ (List.head_mem (by decide))
  obtain ⟨event, hevent⟩ := firedAndResolved_ingested hsha _ (List.getLast_mem (by decide))
  exact hlater.not_first Char.isAlphanum sha256 60 rfl rfl rfl
    ((resolvedIsFirst_iff _ _ _ _ hfired hevent).mp (hkeeps _ _ fired event hlater hfired hevent))

end ResolvedAlerts

end SelfHealing
