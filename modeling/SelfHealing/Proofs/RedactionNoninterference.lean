/-
What redacted data depends on.

Data that agrees except below sensitive keys is redacted alike, whatever is there instead, which is
the theorem about masks.  The documents of an alert are built of its labels and annotations, which
are merged and copied into several places before they are redacted.  The few that the normaliser
reads have keys that are not sensitive, so that two alerts that differ in the values of sensitive
labels have the same documents.

Two runs are compared, and nothing is said of what the documents are: they may show anything that
does not depend on the hidden values.
-/
import SelfHealing.Normalizer

namespace SelfHealing

open Canonical Masking

/-- The values differ below sensitive keys only. -/
abbrev AgreeOnPublic : Data → Data → Prop := Agree isSensitiveKey

/-- The values of the dictionaries differ below sensitive keys only. -/
abbrev DataDict.AgreeOnPublic (dict dict' : DataDict) : Prop :=
    AgreeEntries isSensitiveKey dict dict'

section Agree

variable {a a' b b' : Data} {dict dict' other other' : DataDict}

/-- Values that agree are the same where they are simple, and else of the same shape. -/
theorem agreeOnPublic_cases (h : AgreeOnPublic a a') :
    (∃ x, a = .atom x ∧ a' = .atom x) ∨
      (∃ items items', a = .seq items ∧ a' = .seq items' ∧ items.isEmpty = items'.isEmpty) ∨
      ∃ entries entries', a = .map entries ∧ a' = .map entries' ∧
        entries.isEmpty = entries'.isEmpty := by
  cases a with
  | atom x =>
      cases a' with
      | atom x' =>
          rw [AgreeOnPublic, Agree] at h
          exact Or.inl ⟨x, rfl, h ▸ rfl⟩
      | seq items => exact h.elim
      | map entries => exact h.elim
  | seq items =>
      cases a' with
      | atom x' => exact h.elim
      | seq items' =>
          refine Or.inr (Or.inl ⟨items, items', rfl, rfl, ?_⟩)
          cases items <;> cases items' <;> first | rfl | exact h.elim
      | map entries => exact h.elim
  | map entries =>
      cases a' with
      | atom x' => exact h.elim
      | seq items' => exact h.elim
      | map entries' =>
          refine Or.inr (Or.inr ⟨entries, entries', rfl, rfl, ?_⟩)
          cases entries <;> cases entries' <;> first | rfl | exact h.elim

theorem truthy_congr (h : AgreeOnPublic a a') : truthy a = truthy a' := by
  obtain ⟨x, rfl, rfl⟩ | ⟨items, items', rfl, rfl, hempty⟩ |
    ⟨entries, entries', rfl, rfl, hempty⟩ := agreeOnPublic_cases h
  · rfl
  · exact congrArg not hempty
  · exact congrArg not hempty

theorem textOf_congr (h : AgreeOnPublic a a') : textOf a = textOf a' := by
  obtain ⟨x, rfl, rfl⟩ | ⟨items, items', rfl, rfl, -⟩ | ⟨entries, entries', rfl, rfl, -⟩ :=
    agreeOnPublic_cases h
  · rfl
  · rfl
  · rfl

theorem optionalText_congr (h : AgreeOnPublic a a') : optionalText a = optionalText a' := by
  obtain ⟨x, rfl, rfl⟩ | ⟨items, items', rfl, rfl, -⟩ | ⟨entries, entries', rfl, rfl, -⟩ :=
    agreeOnPublic_cases h
  · rfl
  · rfl
  · rfl

theorem eq_of_textOf {text : String} (h : textOf a = some text) : a = dataText text := by
  cases a with
  | atom x =>
      cases x with
      | text s =>
          cases h
          rfl
      | null => cases h
      | bool b => cases h
      | int n => cases h
      | float x => cases h
  | seq items => cases h
  | map entries => cases h

theorem agree_orElse (ha : AgreeOnPublic a a') (hb : AgreeOnPublic b b') :
    AgreeOnPublic (orElse a b) (orElse a' b') := by
  unfold orElse
  rw [truthy_congr ha]
  by_cases h : truthy a' = true
  · rw [if_pos h, if_pos h]
    exact ha
  · rw [if_neg h, if_neg h]
    exact hb

/-- What is read under a key that is not sensitive agrees. -/
theorem agree_getOr {key : String} (hkey : isSensitiveKey key = false)
    (h : dict.AgreeOnPublic dict') (default : Data) :
    AgreeOnPublic (dict.getOr key default) (dict'.getOr key default) := by
  unfold DataDict.getOr DataDict.get?
  rcases agree_lookup isSensitiveKey (Bool.not_eq_true _ ▸ hkey) h with
    ⟨hnone, hnone'⟩ | ⟨value, value', hvalue, hvalue', hagree⟩
  · rw [hnone, hnone']
    exact agree_refl _ default
  · rw [hvalue, hvalue']
    exact hagree

theorem agree_merge (h : dict.AgreeOnPublic dict') (hother : other.AgreeOnPublic other') :
    (dict.merge other).AgreeOnPublic (dict'.merge other') := by
  unfold DataDict.merge
  induction other generalizing other' dict dict' with
  | nil =>
      cases other' with
      | nil => exact h
      | cons entry rest => exact hother.elim
  | cons entry rest ih =>
      cases other' with
      | nil => exact hother.elim
      | cons entry' rest' =>
          obtain ⟨key, value⟩ := entry
          obtain ⟨key', value'⟩ := entry'
          rw [DataDict.AgreeOnPublic, AgreeEntries] at hother
          obtain ⟨rfl, hvalue, hrest⟩ := hother
          have hput := agreeEntries_put isSensitiveKey hvalue h
          rw [List.foldl_cons, List.foldl_cons]
          exact ih hput hrest

theorem agree_map (h : dict.AgreeOnPublic dict') : AgreeOnPublic (.map dict) (.map dict') := by
  rw [AgreeOnPublic, Agree]
  exact h

/-- One more entry of which the values agree. -/
theorem agree_cons {key : String} (ha : AgreeOnPublic a a') (h : dict.AgreeOnPublic dict') :
    DataDict.AgreeOnPublic ((key, a) :: dict) ((key, a') :: dict') := by
  rw [DataDict.AgreeOnPublic, AgreeEntries]
  exact ⟨rfl, Or.inr ha, h⟩

theorem agree_nil : DataDict.AgreeOnPublic [] [] := by
  rw [DataDict.AgreeOnPublic, AgreeEntries]
  trivial

end Agree

/-! ### Alerts -/

/-- The alerts differ in the values of sensitive labels and annotations only. -/
structure AlertItem.AgreeOnPublic (alert alert' : AlertItem) : Prop where
  status : alert.status = alert'.status
  labels : alert.labels.AgreeOnPublic alert'.labels
  annotations : alert.annotations.AgreeOnPublic alert'.annotations
  startsAt : alert.startsAt = alert'.startsAt
  endsAt : alert.endsAt = alert'.endsAt
  generatorURL : alert.generatorURL = alert'.generatorURL
  fingerprint : alert.fingerprint = alert'.fingerprint

section Alerts

variable {alert alert' : AlertItem} {labels labels' annotations annotations' : DataDict}

/-- The type of the event, a text, is all that the message takes from the labels. -/
theorem agree_payloadData (h : alert.AgreeOnPublic alert') (hlabels : labels.AgreeOnPublic labels')
    (hannotations : annotations.AgreeOnPublic annotations') {text : String}
    (htype : textOf (labels'.getOr "alertname" (dataText "UnknownAlert")) = some text) :
    AgreeOnPublic (alert.payloadData labels annotations)
      (alert'.payloadData labels' annotations') := by
  have hread : ∀ (key : String), isSensitiveKey key = false → ∀ default,
      AgreeOnPublic (labels.getOr key default) (labels'.getOr key default) :=
    fun key hkey default => agree_getOr hkey hlabels default
  have hnote : ∀ (key : String), isSensitiveKey key = false →
      AgreeOnPublic (annotations.getOr key dataNull) (annotations'.getOr key dataNull) :=
    fun key hkey => agree_getOr hkey hannotations dataNull
  have htype' :=
    (textOf_congr (hread "alertname" (by decide) (dataText "UnknownAlert"))).trans htype
  unfold AlertItem.payloadData
  simp only
  rw [eq_of_textOf htype, eq_of_textOf htype', h.status, h.generatorURL]
  refine agree_map (agree_cons (agree_refl _ _) (agree_cons (agree_refl _ _) (agree_cons ?_
    (agree_cons (hread "scenario_id" (by decide) dataNull) (agree_cons ?_
    (agree_cons (agree_map hlabels) (agree_cons (agree_map hannotations)
    (agree_cons (agree_refl _ _) agree_nil))))))))
  · exact agree_orElse
      (agree_orElse (hnote "summary" (by decide)) (hnote "description" (by decide)))
      (agree_refl _ _)
  · exact agree_orElse (hread "service" (by decide) dataNull) (hread "job" (by decide) dataNull)

theorem agree_rawData (h : alert.AgreeOnPublic alert') :
    AgreeOnPublic alert.rawData alert'.rawData := by
  unfold AlertItem.rawData
  rw [h.status, h.startsAt, h.endsAt, h.generatorURL, h.fingerprint]
  exact agree_map (agree_cons (agree_refl _ _) (agree_cons (agree_map h.labels)
    (agree_cons (agree_map h.annotations) (agree_cons (agree_refl _ _) (agree_cons (agree_refl _ _)
    (agree_cons (agree_refl _ _) (agree_cons (agree_refl _ _) agree_nil)))))))

theorem redactSensitiveData_congr {K : Type} (str : K → String) (alnum : Char → Bool)
    {t u : DataTree K} (h : Agree (fun key => isSensitiveKey (str key)) t u) :
    redactSensitiveData str alnum t = redactSensitiveData str alnum u :=
  apply_eq_of_agree (eventMask str alnum) h

end Alerts

/-- The two documents that are stored with the event of an alert. -/
def NormalizedAlert.documents (normalized : NormalizedAlert) : Data × Data :=
  (normalized.payload, normalized.rawPayload)

/-- **Redacted data does not depend on what is below sensitive keys**: not for any data, and so not
for the documents of an alert, which are the same for alerts and notifications that differ in the
values of sensitive labels and annotations only. -/
theorem redaction_noninterference (alnum : Char → Bool) (sha256 : ByteArray → String) :
    (∀ (K : Type) (str : K → String) (t u : DataTree K),
      Agree (fun key => isSensitiveKey (str key)) t u →
        redactSensitiveData str alnum t = redactSensitiveData str alnum u) ∧
    ∀ (alert alert' : AlertItem) (commonLabels commonLabels' commonAnnotations commonAnnotations' :
        DataDict) (resourceId : Nat) (now dedupWindowSeconds : Int),
      alert.AgreeOnPublic alert' → commonLabels.AgreeOnPublic commonLabels' →
      commonAnnotations.AgreeOnPublic commonAnnotations' →
        (normalizeAlertmanagerAlert alnum sha256 alert resourceId commonLabels commonAnnotations now
            dedupWindowSeconds).map NormalizedAlert.documents =
          (normalizeAlertmanagerAlert alnum sha256 alert' resourceId commonLabels' commonAnnotations'
            now dedupWindowSeconds).map NormalizedAlert.documents := by
  refine ⟨fun K str t u => redactSensitiveData_congr str alnum, ?_⟩
  intro alert alert' commonLabels commonLabels' commonAnnotations commonAnnotations' resourceId now
    dedupWindowSeconds h hcommonLabels hcommonAnnotations
  have hlabels := agree_merge hcommonLabels h.labels
  have hannotations := agree_merge hcommonAnnotations h.annotations
  have hread : ∀ (key : String), isSensitiveKey key = false → ∀ default,
      AgreeOnPublic ((commonLabels.merge alert.labels).getOr key default)
        ((commonLabels'.merge alert'.labels).getOr key default) :=
    fun key hkey default => agree_getOr hkey hlabels default
  have htype := textOf_congr (hread "alertname" (by decide) (dataText "UnknownAlert"))
  have hscenario := optionalText_congr (hread "scenario_id" (by decide) dataNull)
  have hservice := optionalText_congr
    (agree_orElse (hread "service" (by decide) dataNull) (hread "job" (by decide) dataNull))
  unfold normalizeAlertmanagerAlert
  simp only [htype, hscenario, hservice]
  cases htext : textOf ((commonLabels'.merge alert'.labels).getOr "alertname"
      (dataText "UnknownAlert")) with
  | none => rfl
  | some text =>
      have hpayload := redactSensitiveData_congr id alnum
        (agree_payloadData h hlabels hannotations htext)
      have hraw := redactSensitiveData_congr id alnum (agree_rawData h)
      rw [hpayload, hraw]
      cases optionalText ((commonLabels'.merge alert'.labels).getOr "scenario_id" dataNull) with
      | error e => rfl
      | ok scenario =>
          cases optionalText (orElse ((commonLabels'.merge alert'.labels).getOr "service" dataNull)
              ((commonLabels'.merge alert'.labels).getOr "job" dataNull)) with
          | error e => rfl
          | ok service => rfl

/-- An alert with an API key among its labels. -/
def keyedAlert (apiKey : String) : AlertItem where
  labels := [("alertname", dataText "ContainerDown"), ("X-API-Key", dataText apiKey)]

/-- Its documents are the same for all keys. -/
theorem keyed_documents :
    (normalizeAlertmanagerAlert Char.isAlphanum (fun _ => "") (keyedAlert "first") 1 [] [] 0).map
        NormalizedAlert.documents =
      (normalizeAlertmanagerAlert Char.isAlphanum (fun _ => "") (keyedAlert "second") 1 [] [] 0).map
        NormalizedAlert.documents := by
  refine (redaction_noninterference Char.isAlphanum fun _ => "").2 _ _ _ _ _ _ _ _ _
    ⟨rfl, ?_, agree_nil, rfl, rfl, rfl, rfl⟩ agree_nil agree_nil
  refine agree_cons (agree_refl _ _) ?_
  rw [DataDict.AgreeOnPublic, AgreeEntries]
  exact ⟨rfl, Or.inl (by decide), agree_nil⟩

end SelfHealing
