/-
Which events have the same fingerprint.

The text that is hashed ends with the identifying keys as JSON, and where these begin can be told,
whatever the labels are that stand in front (`spaced_suffix`).  The type and the scenario are among
the keys again, so all that has to be read in front of them is the source, which has no colon in it,
and the resource, whose text has always the same length.

Equality of fingerprints is equality of the texts that are hashed, as far as the digest goes; and
the texts are equal if and only if the identities are.  A missing name is hashed as the name
`UnknownAlert`, so that it is part of the identity as that.
-/
import SelfHealing.Proofs.PlanHash
import SelfHealing.Proofs.SpacedJson

namespace SelfHealing

open Canonical Masking Priority

/-! ### The source and the resource

What stands before the keys is read from the front: first up to a colon, then a fixed number of
characters.
-/

/-- Texts without colons, up to the first colon. -/
theorem colon_inj {part part' rest rest' : List Char} (hpart : ':' ∉ part) (hpart' : ':' ∉ part')
    (h : part ++ ':' :: rest = part' ++ ':' :: rest') : part = part' ∧ rest = rest' := by
  induction part generalizing part' with
  | nil =>
      cases part' with
      | nil => exact ⟨rfl, (List.cons.inj h).2⟩
      | cons c' part' =>
          rw [List.nil_append, List.cons_append, List.cons.injEq] at h
          exact absurd (by rw [h.1]; exact List.mem_cons_self) hpart'
  | cons c part ih =>
      cases part' with
      | nil =>
          rw [List.nil_append, List.cons_append, List.cons.injEq] at h
          exact absurd (by rw [h.1]; exact List.mem_cons_self) hpart
      | cons c' part' =>
          rw [List.cons_append, List.cons_append, List.cons.injEq] at h
          obtain ⟨hparts, hrest⟩ := ih (fun hc => hpart (List.mem_cons_of_mem _ hc))
            (fun hc => hpart' (List.mem_cons_of_mem _ hc)) h.2
          exact ⟨by rw [h.1, hparts], hrest⟩

theorem source_no_colon (source : EventSource) : ':' ∉ source.value.toList := by
  cases source <;> decide

theorem EventSource.value_injective {source source' : EventSource}
    (h : source.value.toList = source'.value.toList) : source = source' := by
  cases source <;> cases source' <;> first | rfl | exact absurd h (by decide)

theorem length_uuidText {id : Nat} (h : id < 2 ^ 128) : (uuidText id).toList.length = 36 := by
  have hlen := length_uuidDigits h
  rw [uuidText_toList]
  simp only [List.length_append, List.length_cons, List.length_take, List.length_drop, hlen]
  omega

/-- What is written in front of the identifying keys. -/
def textInFront (source : EventSource) (resourceId : Nat) (eventType : String)
    (scenarioId : Option String) : List Char :=
  source.value.toList ++ ':' :: ((uuidText resourceId).toList ++
    ':' :: (eventType.toList ++ ':' :: ((scenarioId.getD "").toList ++ [':'])))

theorem textInFront_inj {source source' : EventSource} {resourceId resourceId' : Nat}
    {eventType eventType' : String} {scenarioId scenarioId' : Option String}
    (hid : resourceId < 2 ^ 128) (hid' : resourceId' < 2 ^ 128)
    (h : textInFront source resourceId eventType scenarioId =
      textInFront source' resourceId' eventType' scenarioId') :
    source = source' ∧ resourceId = resourceId' := by
  obtain ⟨hsource, hrest⟩ := colon_inj (source_no_colon source) (source_no_colon source') h
  obtain ⟨hresource, -⟩ := List.append_inj hrest
    ((length_uuidText hid).trans (length_uuidText hid').symm)
  exact ⟨EventSource.value_injective hsource,
    uuidText_injective hid hid' (String.toList_inj.mp hresource)⟩

/-! ### The text that is hashed

The keys are the last part of the text, and where they begin can be found from its end, as a JSON
text of a dictionary is balanced and nothing that stands before it ends in one.  What is in front
of them is read from the front as far as it is needed, and the labels in between are not read at
all.
-/

theorem canonicalText_toList (source : EventSource) (resourceId : Nat) (eventType : String)
    (scenarioId : Option String) {keys : JsonDict} (hkeys : keys ≠ []) :
    (canonicalText source resourceId eventType scenarioId keys).toList =
      textInFront source resourceId eventType scenarioId ++
        jsonPrinter.spaced (.map keys : JsonValue).sortKeys := by
  have hcolon : ":".toList = [':'] := rfl
  have hne : keys.isEmpty = false := by
    rw [List.isEmpty_eq_false_iff]
    exact hkeys
  unfold canonicalText textInFront jsonDumpsSpaced
  simp only [hne, Bool.false_eq_true, if_false, String.toList_append, String.toList_ofList, hcolon,
    List.append_assoc, List.cons_append, List.nil_append]

/-- **The text tells the source, the resource and the identifying keys**, up to their order. -/
theorem canonicalText_inj {source source' : EventSource} {resourceId resourceId' : Nat}
    {eventType eventType' : String} {scenarioId scenarioId' : Option String} {keys keys' : JsonDict}
    (hid : resourceId < 2 ^ 128) (hid' : resourceId' < 2 ^ 128) (hkeys : keys ≠ [])
    (hkeys' : keys' ≠ [])
    (h : canonicalText source resourceId eventType scenarioId keys =
      canonicalText source' resourceId' eventType' scenarioId' keys') :
    source = source' ∧ resourceId = resourceId' ∧
      (.map keys : JsonValue).sortKeys = (.map keys' : JsonValue).sortKeys := by
  have hchars := congrArg String.toList h
  rw [canonicalText_toList _ _ _ _ hkeys, canonicalText_toList _ _ _ _ hkeys', sortKeys_map,
    sortKeys_map] at hchars
  obtain ⟨hfront, hsorted⟩ := spaced_suffix jsonPrinter_readable jsonPrinter_quoted hchars
  obtain ⟨hsource, hresource⟩ := textInFront_inj hid hid' hfront
  refine ⟨hsource, hresource, ?_⟩
  rw [sortKeys_map, sortKeys_map, hsorted]

/-- What is written of a text that may be missing tells it. -/
theorem jsonStr?_sortKeys {s s' : Option String}
    (h : (jsonStr? s).sortKeys = (jsonStr? s').sortKeys) : s = s' := by
  simp only [jsonStr?, sortKeys_atom, Tree.atom.injEq] at h
  cases s with
  | none =>
      cases s' with
      | none => rfl
      | some s' => cases h
  | some s =>
      cases s' with
      | none => cases h
      | some s' => rw [JsonAtom.text.inj h]

/-! ### Keys that are data -/

theorem toList_intercalate (parts : List String) :
    (String.intercalate ", " parts).toList = spacedCommas (parts.map String.toList) := by
  have hmore : ∀ part rest, (", ".intercalate (part :: rest)).toList =
      part.toList ++ (rest.map String.toList).flatMap fun part => ',' :: ' ' :: part := by
    intro part rest
    induction rest generalizing part with
    | nil => simp only [String.intercalate_singleton, List.map_nil, List.flatMap_nil, List.append_nil]
    | cons next rest ih =>
        rw [String.intercalate_cons_cons, String.toList_append, String.toList_append, ih]
        simp only [List.map_cons, List.flatMap_cons, List.append_assoc]
        rfl
  cases parts with
  | nil => rfl
  | cons part rest => exact hmore part rest

/-- What becomes of the values is nothing to the order of the keys. -/
theorem sortOn_map_values {V W : Type} (f : V → W) (entries : List (String × V)) :
    sortOn Prod.fst (entries.map (Prod.map id f)) =
      (sortOn Prod.fst entries).map (Prod.map id f) :=
  (List.map_insertionSort (fun e e' : String × V => e.1 ≤ e'.1)
    (fun e e' : String × W => e.1 ≤ e'.1) (Prod.map id f) entries fun _ _ _ _ => Iff.rfl).symm

theorem dumpsEntries_texts (entries : List (String × Option String)) :
    dataDumpsEntries (entries.map (Prod.map id dataText?)) =
      entries.map (Prod.map id fun s => dataDumps (dataText? s)) := by
  induction entries with
  | nil => rfl
  | cons e rest ih =>
      rw [List.map_cons, Prod.map, dataDumpsEntries, ih]
      rfl

theorem dumps_text? (s : Option String) :
    (dataDumps (dataText? s)).toList = jsonPrinter.spaced (jsonStr? s) := by
  cases s with
  | none => rfl
  | some s => rfl

/-- Of texts, both write the same. -/
theorem dumps_texts (entries : List (String × Option String)) :
    dataDumps (.map (entries.map (Prod.map id dataText?))) =
      jsonDumpsSpaced (.map (entries.map (Prod.map id jsonStr?))) := by
  have hsort : (entries.map (Prod.map id jsonStr?)).map (Prod.map id Tree.sortKeys) =
      entries.map (Prod.map id jsonStr?) := by
    rw [List.map_map]
    exact List.map_congr_left fun e _ => rfl
  rw [← String.toList_inj]
  unfold jsonDumpsSpaced
  rw [sortKeys_map, hsort, sortByKey_eq, sortOn_map_values, Printer.spaced, spacedEntries_eq,
    String.toList_ofList, dataDumps, dumpsEntries_texts, sortOn_map_values]
  simp only [String.toList_append, toList_intercalate, List.map_map]
  have hparts : ∀ sorted : List (String × Option String),
      sorted.map (String.toList ∘ (fun entry : String × String => jsonText entry.1 ++ ": " ++ entry.2) ∘
        Prod.map id fun s => dataDumps (dataText? s)) =
      sorted.map ((fun e => jsonPrinter.key e.1 ++ ':' :: ' ' :: jsonPrinter.spaced e.2) ∘
        Prod.map id jsonStr?) := by
    intro sorted
    refine List.map_congr_left fun e _ => ?_
    simp only [Function.comp_apply, Prod.map_fst, Prod.map_snd, id_eq, String.toList_append,
      dumps_text?, List.append_assoc]
    rfl
  rw [hparts]
  rfl

theorem canonicalData_texts (source : EventSource) (resourceId : Nat) (eventType : String)
    (scenarioId : Option String) (entries : List (String × Option String)) :
    canonicalData source resourceId (dataText eventType) (dataText? scenarioId)
        (entries.map (Prod.map id dataText?)) =
      canonicalText source resourceId eventType scenarioId
        (entries.map (Prod.map id jsonStr?)) := by
  have hscenario : dataStr (orElse (dataText? scenarioId) (dataText "")) = scenarioId.getD "" := by
    cases scenarioId with
    | none => rfl
    | some s =>
        by_cases hs : s = ""
        · rw [hs]
          rfl
        · have htruthy : truthy (dataText? (some s)) = true := decide_eq_true hs
          rw [orElse, htruthy]
          rfl
  unfold canonicalData canonicalText
  rw [hscenario, dumps_texts, List.isEmpty_map, List.isEmpty_map]
  rfl

/-! ### Alerts -/

/-- What a label says, if it is there. -/
def DataDict.label (labels : DataDict) (key : String) : Option String :=
  (labels.get? key).bind textOf

/-- `a or b`. -/
def firstText (a b : Option String) : Option String := (a.filter fun s => s ≠ "").or b

/-- What an alert is known by. -/
structure AlertIdentity where
  resourceId : Nat
  alertname : String
  scenarioId : Option String
  service : Option String
  instanceLabel : Option String
  fingerprintHint : Option String
deriving DecidableEq

/-- The name of an alert is `UnknownAlert` where it has none, and its service is the job where none
is named. -/
def AlertItem.identity (alert : AlertItem) (resourceId : Nat) (commonLabels : DataDict) :
    AlertIdentity :=
  let labels := commonLabels.merge alert.labels
  { resourceId := resourceId
    alertname := (labels.label "alertname").getD "UnknownAlert"
    scenarioId := labels.label "scenario_id"
    service := firstText (labels.label "service") (labels.label "job")
    instanceLabel := labels.label "instance"
    fingerprintHint := alert.fingerprint }

def AlertIdentity.keys (i : AlertIdentity) : List (String × Option String) :=
  [("alertname", some i.alertname), ("scenario_id", i.scenarioId), ("service", i.service),
   ("instance", i.instanceLabel), ("fingerprint_hint", i.fingerprintHint)]

/-- A label that is there is a text. -/
theorem get?_label {labels : DataDict} (h : labels.allTexts = true) (key : String) :
    labels.get? key = (labels.label key).map dataText := by
  unfold DataDict.label
  cases hget : labels.get? key with
  | none => rfl
  | some value =>
      obtain ⟨before, after, hlabels, -⟩ := List.lookup_eq_some_iff.mp hget
      have hmem : (key, value) ∈ labels := by
        rw [hlabels]
        exact List.mem_append_right before List.mem_cons_self
      have htext := List.all_eq_true.mp h _ hmem
      obtain ⟨s, hs⟩ := Option.isSome_iff_exists.mp htext
      simp only at hs
      have hvalue : value = dataText s := by
        cases value with
        | atom a =>
            cases a with
            | text s' => rw [← Option.some.inj hs]; rfl
            | null => cases hs
            | bool b => cases hs
            | int n => cases hs
            | float x => cases hs
        | seq items => cases hs
        | map entries => cases hs
      rw [Option.bind_some, hs, hvalue]
      rfl

theorem getOr_label {labels : DataDict} (h : labels.allTexts = true) (key : String) :
    labels.getOr key dataNull = dataText? (labels.label key) := by
  unfold DataDict.getOr
  rw [get?_label h]
  cases labels.label key with
  | none => rfl
  | some s => rfl

theorem orElse_texts (a b : Option String) :
    orElse (dataText? a) (dataText? b) = dataText? (firstText a b) := by
  cases a with
  | none => rfl
  | some s =>
      by_cases hs : s = ""
      · rw [hs]
        rfl
      · have htruthy : truthy (dataText? (some s)) = true := decide_eq_true hs
        have hfilter : (some s).filter (fun s => decide (s ≠ "")) = some s := by
          rw [Option.filter_eq_some_iff]
          exact ⟨rfl, decide_eq_true hs⟩
        rw [orElse, htruthy, firstText, hfilter]
        rfl

/-- With labels that are texts, the text that is hashed is made of what the alert is known by. -/
theorem canonical_identity {alert : AlertItem} {resourceId : Nat} {commonLabels : DataDict}
    (h : (commonLabels.merge alert.labels).allTexts = true) :
    alert.canonical resourceId commonLabels =
      canonicalText .alertmanager resourceId (alert.identity resourceId commonLabels).alertname
        (alert.identity resourceId commonLabels).scenarioId
        ((alert.identity resourceId commonLabels).keys.map (Prod.map id jsonStr?)) := by
  have hname : (commonLabels.merge alert.labels).getOr "alertname" (dataText "UnknownAlert") =
      dataText (alert.identity resourceId commonLabels).alertname := by
    unfold DataDict.getOr AlertItem.identity
    rw [get?_label h]
    exact Option.getD_map _ _ _
  rw [← canonicalData_texts]
  unfold AlertItem.canonical
  simp only
  rw [hname, getOr_label h, getOr_label h, getOr_label h, getOr_label h, orElse_texts]
  rfl

theorem AlertIdentity.eq_of_keys {i i' : AlertIdentity} (hid : i.resourceId = i'.resourceId)
    (h : (.map (i.keys.map (Prod.map id jsonStr?)) : JsonValue).sortKeys =
      (.map (i'.keys.map (Prod.map id jsonStr?)) : JsonValue).sortKeys) : i = i' := by
  simp only [AlertIdentity.keys, List.map_cons, List.map_nil, Prod.map, id_eq] at h
  have hvalues := sortKeys_values h (by simp only [List.map_cons, List.map_nil])
    (by simp only [List.map_cons, List.map_nil]; decide)
  simp only [List.forall₂_cons, List.Forall₂.nil, and_true] at hvalues
  obtain ⟨hname, hscenario, hservice, hinstance, hhint⟩ := hvalues
  have hname := Option.some.inj (jsonStr?_sortKeys hname)
  have hscenario := jsonStr?_sortKeys hscenario
  have hservice := jsonStr?_sortKeys hservice
  have hinstance := jsonStr?_sortKeys hinstance
  have hhint := jsonStr?_sortKeys hhint
  cases i
  cases i'
  simp only at hid hname hscenario hservice hinstance hhint
  rw [hid, hname, hscenario, hservice, hinstance, hhint]

/-- **Alerts with labels that are texts** have one text if and only if they are known by the same. -/
theorem alert_canonical_iff {alert alert' : AlertItem} {resourceId resourceId' : Nat}
    {commonLabels commonLabels' : DataDict} (hid : resourceId < 2 ^ 128)
    (hid' : resourceId' < 2 ^ 128) (h : (commonLabels.merge alert.labels).allTexts = true)
    (h' : (commonLabels'.merge alert'.labels).allTexts = true) :
    alert.canonical resourceId commonLabels = alert'.canonical resourceId' commonLabels' ↔
      alert.identity resourceId commonLabels = alert'.identity resourceId' commonLabels' := by
  rw [canonical_identity h, canonical_identity h']
  constructor
  · intro heq
    have hne : ∀ i : AlertIdentity, i.keys.map (Prod.map id jsonStr?) ≠ [] :=
      fun _ => List.cons_ne_nil _ _
    obtain ⟨-, hresource, hkeys⟩ := canonicalText_inj hid hid' (hne _) (hne _) heq
    exact AlertIdentity.eq_of_keys hresource hkeys
  · intro hsame
    have hresource : resourceId = resourceId' := congrArg AlertIdentity.resourceId hsame
    rw [hsame, hresource]

theorem allTexts_put {labels : DataDict} (h : labels.allTexts = true) (key : String) {value : Data}
    (hvalue : (textOf value).isSome = true) :
    DataDict.allTexts (put key value labels) = true := by
  induction labels with
  | nil => exact List.all_eq_true.mpr (List.forall_mem_singleton.mpr hvalue)
  | cons entry rest ih =>
      obtain ⟨hentry, hrest⟩ := List.forall_mem_cons.mp (List.all_eq_true.mp h)
      unfold put
      split
      · exact List.all_eq_true.mpr (List.forall_mem_cons.mpr ⟨hvalue, hrest⟩)
      · have hput := List.all_eq_true.mp (ih (List.all_eq_true.mpr hrest))
        exact List.all_eq_true.mpr (List.forall_mem_cons.mpr ⟨hentry, hput⟩)

/-- Texts over texts. -/
theorem allTexts_merge {labels other : DataDict} (h : labels.allTexts = true)
    (hother : other.allTexts = true) : (labels.merge other).allTexts = true := by
  unfold DataDict.merge
  induction other generalizing labels with
  | nil => exact h
  | cons entry rest ih =>
      obtain ⟨hentry, hrest⟩ := List.forall_mem_cons.mp (List.all_eq_true.mp hother)
      exact ih (allTexts_put h entry.1 hentry) (List.all_eq_true.mpr hrest)

/-- An event that is made of an alert. -/
theorem normalizeAlertmanagerAlert_key {alnum : Char → Bool} {sha256 : ByteArray → String}
    {alert : AlertItem} {resourceId : Nat} {commonLabels commonAnnotations : DataDict}
    {now dedupWindowSeconds : Int} {event : NormalizedAlert}
    (h : normalizeAlertmanagerAlert alnum sha256 alert resourceId commonLabels commonAnnotations now
      dedupWindowSeconds = .ok event) :
    event.event.source = .alertmanager ∧ event.event.resourceId = resourceId ∧
      event.event.fingerprint = sha256 (alert.canonical resourceId commonLabels).toUTF8 ∧
      event.event.dedupWindow =
        computeDedupWindow (alert.startsAt.elim now Datetime.time) dedupWindowSeconds ∧
      event.payload = redactSensitiveData id alnum (alert.payloadData
        (commonLabels.merge alert.labels) (commonAnnotations.merge alert.annotations)) := by
  unfold normalizeAlertmanagerAlert at h
  simp only at h
  cases htype : textOf ((commonLabels.merge alert.labels).getOr "alertname"
      (dataText "UnknownAlert")) with
  | none => rw [htype] at h; cases h
  | some text =>
      rw [htype] at h
      cases hscenario : optionalText ((commonLabels.merge alert.labels).getOr "scenario_id"
          dataNull) with
      | error e => rw [hscenario] at h; cases h
      | ok scenario =>
          rw [hscenario] at h
          cases hservice : optionalText (orElse
              ((commonLabels.merge alert.labels).getOr "service" dataNull)
              ((commonLabels.merge alert.labels).getOr "job" dataNull)) with
          | error e => rw [hservice] at h; cases h
          | ok service =>
              rw [hservice] at h
              cases h
              exact ⟨rfl, rfl, rfl, rfl, rfl⟩

/-! ### Other events -/

/-- Two events of the same kind, with the same labels up to the order of keys. -/
structure SameEvent (event event' : GenericEventPayload) (resourceId resourceId' : Nat) : Prop where
  source : event.source = event'.source
  resourceId : resourceId = resourceId'
  eventType : event.eventType = event'.eventType
  scenarioId : event.scenarioId = event'.scenarioId
  service : event.service = event'.service
  labels : Reordered (.map event.labels) (.map event'.labels)

theorem generic_canonical_iff {event event' : GenericEventPayload} {resourceId resourceId' : Nat}
    (hid : resourceId < 2 ^ 128) (hid' : resourceId' < 2 ^ 128)
    (hlabels : Distinct (.map event.labels)) :
    event.canonical resourceId = event'.canonical resourceId' ↔
      SameEvent event event' resourceId resourceId' := by
  unfold GenericEventPayload.canonical
  constructor
  · intro heq
    obtain ⟨hsource, hresource, hkeys⟩ :=
      canonicalText_inj hid hid' (List.cons_ne_nil _ _) (List.cons_ne_nil _ _) heq
    have hvalues := sortKeys_values hkeys (by simp only [List.map_cons, List.map_nil])
      (by simp only [List.map_cons, List.map_nil]; decide)
    simp only [List.forall₂_cons, List.Forall₂.nil, and_true] at hvalues
    obtain ⟨htype, hscenario, hservice, hsorted⟩ := hvalues
    exact ⟨hsource, hresource, jsonStr_sortKeys htype, jsonStr?_sortKeys hscenario,
      jsonStr?_sortKeys hservice, sortKeys_reordered hsorted⟩
  · intro hsame
    have hsorted := hsame.labels.sortKeys.2 hlabels
    have hkeys : (.map event.identifyingKeys : JsonValue).sortKeys =
        (.map event'.identifyingKeys : JsonValue).sortKeys := by
      unfold GenericEventPayload.identifyingKeys
      simp only [sortKeys_map, List.map_cons, List.map_nil, Prod.map, id_eq] at hsorted ⊢
      rw [hsorted, hsame.eventType, hsame.scenarioId, hsame.service]
    have hne : ∀ event : GenericEventPayload, event.identifyingKeys ≠ [] :=
      fun _ => List.cons_ne_nil _ _
    rw [← String.toList_inj, canonicalText_toList _ _ _ _ (hne event),
      canonicalText_toList _ _ _ _ (hne event'), hkeys, hsame.source, hsame.resourceId,
      hsame.eventType, hsame.scenarioId]

/-! ### What tells two events apart -/

/-- The labels of an alert, and those of its notification, are texts. -/
structure AlertItem.TextLabels (alert : AlertItem) (commonLabels : DataDict) : Prop where
  common : commonLabels.allTexts = true
  own : alert.labels.allTexts = true

/-- **Two alerts are hashed alike if and only if** the resource, the name (`UnknownAlert` where there
is none), the scenario, the service or the job, the instance and the hint are the same, whatever
their texts contain; **two other events**, if and only if the source, the resource, the type, the
scenario, the service and the labels are.  Of the rest of an event, and of the time at which it comes,
nothing gets into the fingerprint. -/
theorem fingerprint_identity :
    (∀ {alert alert' : AlertItem} {resourceId resourceId' : Nat}
        {commonLabels commonLabels' : DataDict}, resourceId < 2 ^ 128 → resourceId' < 2 ^ 128 →
      alert.TextLabels commonLabels → alert'.TextLabels commonLabels' →
      (alert.canonical resourceId commonLabels = alert'.canonical resourceId' commonLabels' ↔
        alert.identity resourceId commonLabels = alert'.identity resourceId' commonLabels')) ∧
    (∀ {event event' : GenericEventPayload} {resourceId resourceId' : Nat},
      resourceId < 2 ^ 128 → resourceId' < 2 ^ 128 → Distinct (.map event.labels) →
      (event.canonical resourceId = event'.canonical resourceId' ↔
        SameEvent event event' resourceId resourceId')) ∧
    (∀ {alnum : Char → Bool} {sha256 : ByteArray → String} {alert : AlertItem} {resourceId : Nat}
        {commonLabels commonAnnotations : DataDict} {now dedupWindowSeconds : Int}
        {event : NormalizedAlert},
      normalizeAlertmanagerAlert alnum sha256 alert resourceId commonLabels commonAnnotations now
        dedupWindowSeconds = .ok event →
      event.event.fingerprint = sha256 (alert.canonical resourceId commonLabels).toUTF8) ∧
    (∀ (alnum : Char → Bool) (sha256 : ByteArray → String) (modelDump : GenericEventPayload → Data)
        (event : GenericEventPayload) (resourceId : Nat) (now dedupWindowSeconds : Int),
      (event.normalize alnum sha256 modelDump resourceId now dedupWindowSeconds).event.fingerprint =
        sha256 (event.canonical resourceId).toUTF8) := by
  refine ⟨?_, ?_, ?_, ?_⟩
  · intro alert alert' resourceId resourceId' commonLabels commonLabels' hid hid' h h'
    exact alert_canonical_iff hid hid' (allTexts_merge h.common h.own)
      (allTexts_merge h'.common h'.own)
  · intro event event' resourceId resourceId' hid hid' hlabels
    exact generic_canonical_iff hid hid' hlabels
  · intro alnum sha256 alert resourceId commonLabels commonAnnotations now dedupWindowSeconds event h
    exact (normalizeAlertmanagerAlert_key h).2.2.1
  · intro alnum sha256 modelDump event resourceId now dedupWindowSeconds
    rfl

/-- A name with a scenario in it, as an alert and as another event. -/
def colonAlert : AlertItem := { labels := [("alertname", dataText "disk:full")] }

def colonEvent : GenericEventPayload := { eventType := "disk:full" }

theorem fingerprint_identity_colon :
    (colonAlert.canonical 1 [] ≠ AlertItem.canonical { colonAlert with
      labels := [("alertname", dataText "disk"), ("scenario_id", dataText "full")] } 1 []) ∧
    (colonEvent.canonical 1 ≠ GenericEventPayload.canonical { colonEvent with
      eventType := "disk", scenarioId := some "full" } 1) ∧
    ∃ event, normalizeAlertmanagerAlert Char.isAlphanum (fun _ => "") colonAlert 1 [] [] 0 =
      .ok event ∧ event.event.fingerprint = "" := by
  refine ⟨?_, ?_, ?_⟩
  · intro h
    have hsame := (fingerprint_identity.1 (by decide) (by decide) ⟨rfl, rfl⟩ ⟨rfl, rfl⟩).mp h
    revert hsame
    decide
  · intro h
    have hlabels : Distinct (.map colonEvent.labels) :=
      .map List.nodup_nil (List.forall_mem_nil _)
    have hsame := (fingerprint_identity.2.1 (by decide) (by decide) hlabels).mp h
    exact absurd hsame.eventType (by decide)
  · have hok : ∃ event, normalizeAlertmanagerAlert Char.isAlphanum (fun _ => "") colonAlert 1 [] []
        0 = .ok event := ⟨_, rfl⟩
    obtain ⟨event, hevent⟩ := hok
    exact ⟨event, hevent, fingerprint_identity.2.2.1 hevent⟩

/-- An alert that has no name is hashed as one with the name `UnknownAlert`. -/
theorem unnamed_alert_hashed_alike :
    AlertItem.canonical { labels := [("service", dataText "demo-api")] } 1 [] =
        AlertItem.canonical { labels := [("alertname", dataText "UnknownAlert"),
          ("service", dataText "demo-api")] } 1 [] ∧
      DataDict.label [("service", dataText "demo-api")] "alertname" ≠
        DataDict.label [("alertname", dataText "UnknownAlert"),
          ("service", dataText "demo-api")] "alertname" := by
  refine ⟨rfl, ?_⟩
  decide

end SelfHealing
