import TelemetryAlerts.Proofs.Json.Prefix
import TelemetryAlerts.Proofs.Time.Stored
import TelemetryAlerts.Alert.Reader
import TelemetryAlerts.Document.Text

/-!
# The documents of alerts

An alert is stored as the text of its document. Reading that text gives the alert back,
with its readings as they were read; the text alone tells which alert it is of and where
it stands in its life.

**Results.**
* `ofJson_toJson`: the alert in the document of an alert is that alert.
* `ofText_toJson`: what reading the stored text of an alert's document gives.
* `outline_of_storedText`: alerts with the same stored text differ in their readings at
  most.
* `storedText_readBack`: an alert that was read is stored under the same text again.
-/

namespace TelemetryAlerts
namespace Alert

open Json (Style)

/-- An alert as it is read back: each reading as it was read. -/
def readBack (a : Alert) : Alert :=
  { a with readings := Json.ofAssignments (Json.readBackFields a.readings) }

/-- Whether the whole numbers of an alert have few enough digits to be read. -/
def isLegible (a : Alert) : Bool :=
  Json.isLegible a.toJson

/-- What reading the document of a stored alert gives. -/
def reading (a : Alert) : Outcome Alert :=
  if a.isLegible then .ok a.readBack else .error (.kind .unusableValue)

/-- Whether the readings of an alert name no field twice, at any depth. -/
def namesDistinct (a : Alert) : Bool :=
  Json.namesDistinct (.obj a.readings)

/-! ### Reading single fields -/

theorem word_statusName
    (s : Status) :
    Document.word Status.ofName? (Json.str s.name) = .ok s := by
  cases s <;> rfl

theorem word_severityName
    (s : Severity) :
    Document.word Severity.ofName? (Json.str s.name) = .ok s := by
  cases s <;> rfl

theorem moment_storedText
    (t : Moment) :
    Document.moment (Json.str t.storedText) = .ok t := by
  simp [Document.moment, Document.layer, Moment.ofText?_storedText]

theorem optional_storedMoment
    (t? : Option Moment) :
    Document.optional Document.moment (storedMoment t?) = .ok t? := by
  cases t? with
  | none =>
      rfl
  | some t =>
      simp only [storedMoment, Document.optional, Document.layer, moment_storedText]
      rfl

theorem optional_text
    (s? : Option String) :
    Document.optional Document.text (Json.ofText? s?) = .ok s? := by
  cases s? <;> rfl

/-! ### Reading whole alerts -/

/-- The alert in the document of an alert is that alert. -/
theorem ofJson_toJson
    (fresh : String) (now : Moment)
    (a : Alert) :
    ofJson fresh now a.toJson = .ok a := by
  have hreadings :
      (Document.mapping (Json.obj a.readings)).map (List.map fun p => (p.1, p.2)) =
        .ok a.readings := by
    simp [Document.mapping, Document.layer, Checked.map]
  simp only [ofJson, Document.record, toJson, Document.layer, ofEntries,
    Entries.withDefault, Entries.required, List.lookup_cons, String.reduceBEq,
    hreadings, word_statusName, word_severityName,
    moment_storedText, optional_storedMoment, optional_text]
  rfl

theorem toJson_injective :
    Function.Injective toJson := by
  intro a b h
  have hread := ofJson_toJson "" .epoch a
  rw [h, ofJson_toJson] at hread
  exact (Checked.ok.inj hread).symm

theorem readBack_storedMoment
    (t? : Option Moment) :
    Json.readBack (storedMoment t?) = storedMoment t? := by
  cases t? <;> rfl

theorem readBack_ofText?
    (s? : Option String) :
    Json.readBack (Json.ofText? s?) = Json.ofText? s? := by
  cases s? <;> rfl

/-- The names of the fields of an alert's document are different. -/
theorem toJson_names
    {β : Type} (a b c d e f g h i j k l m n o p q r s : β) :
    (([("id", a), ("tenant_id", b), ("alert_rule_id", c), ("device_id", d), ("status", e),
      ("severity", f), ("message", g), ("details", h), ("field_values", i),
      ("triggered_at", j), ("updated_at", k), ("acknowledged_at", l), ("acknowledged_by", m),
      ("acknowledgment_notes", n), ("resolved_at", o), ("resolution_notes", p),
      ("notification_count", q), ("escalation_count", r), ("last_escalated_at", s)] :
        List (String × β)).map Prod.fst).Nodup := by
  simp only [List.map_cons, List.map_nil]
  decide

/-- The document of an alert is read back as that of the alert read back. -/
theorem readBack_toJson
    (a : Alert) :
    Json.readBack a.toJson = a.readBack.toJson := by
  simp only [toJson, Json.readBack, Json.readBackFields, readBack_storedMoment,
    readBack_ofText?, readBack]
  rw [Json.ofAssignments_of_nodup (toJson_names ..)]

/-- What reading the stored text of an alert's document gives. -/
theorem ofText_toJson
    (a : Alert) :
    Document.ofText (Json.write Style.stored a.toJson) = toJson <$> a.reading := by
  simp only [Document.ofText, Json.read_write, readBack_toJson, reading, isLegible]
  by_cases hlegible : a.toJson.isLegible = true
  · simp [hlegible]
  · simp [hlegible]

/-- Several alerts are read if all of them are legible. -/
theorem mapM_reading
    (alerts : List Alert) :
    alerts.mapM reading =
      if alerts.all isLegible then .ok (alerts.map readBack)
      else .error (.kind .unusableValue) := by
  induction alerts with
  | nil =>
      rfl
  | cons a alerts ih =>
      rw [List.mapM_cons, ih, reading]
      by_cases ha : a.isLegible = true
      · by_cases hall : alerts.all isLegible = true
        · simp [ha, hall]
          rfl
        · simp [ha, hall]
          rfl
      · simp [ha]
        rfl

/-- An alert is legible if its readings and its two counts are. -/
theorem isLegible_iff
    (a : Alert) :
    a.isLegible = true ↔
      Json.areLegibleFields a.readings = true ∧
        Json.isLegible (.int a.notifications) = true ∧
        Json.isLegible (.int a.escalations) = true := by
  have hmoment (t? : Option Moment) : Json.isLegible (storedMoment t?) = true := by
    cases t? <;> rfl
  have htext (s? : Option String) : Json.isLegible (Json.ofText? s?) = true := by
    cases s? <;> rfl
  have hstr (s : String) : Json.isLegible (.str s) = true := rfl
  have hobj (fields : List (String × Json)) :
      Json.isLegible (.obj fields) = Json.areLegibleFields fields := rfl
  rw [isLegible, toJson, hobj]
  simp only [Json.areLegibleFields, hmoment, htext, hstr, hobj, Bool.true_and, Bool.and_true,
    Bool.and_eq_true]

theorem isLegible_int_iff
    (n : Int) :
    Json.isLegible (.int n) = true ↔ n.natAbs < 10 ^ Json.maxWholeDigits := by
  rw [Json.isLegible, decide_eq_true_iff]
  exact Nat.length_toDigits_le_iff (by decide) (by decide)

/-! ### What the stored text tells -/

theorem statusName_injective :
    Function.Injective Status.name := by
  intro s t h
  have hread := word_statusName s
  rw [h, word_statusName t] at hread
  exact (Checked.ok.inj hread).symm

theorem text_of_value
    {s t : String}
    (h : Style.stored.value (.str s) = Style.stored.value (.str t)) :
    s = t :=
  Json.str.inj (Json.readBack_of_value h rfl)

theorem severityName_injective :
    Function.Injective Severity.name := by
  intro s t h
  have hread := word_severityName s
  rw [h, word_severityName t] at hread
  exact (Checked.ok.inj hread).symm

theorem moment_of_value
    {t? u? : Option Moment}
    (h : Style.stored.value (storedMoment t?) = Style.stored.value (storedMoment u?)) :
    t? = u? := by
  have hlegible : Json.isLegible (storedMoment t?) = true := by
    cases t? <;> rfl
  have hread := Json.readBack_of_value h hlegible
  rw [readBack_storedMoment, readBack_storedMoment] at hread
  have ht := optional_storedMoment t?
  rw [hread, optional_storedMoment u?] at ht
  exact (Checked.ok.inj ht).symm

theorem text?_of_value
    {s? t? : Option String}
    (h : Style.stored.value (Json.ofText? s?) = Style.stored.value (Json.ofText? t?)) :
    s? = t? := by
  have hlegible : Json.isLegible (Json.ofText? s?) = true := by
    cases s? <;> rfl
  have hread := Json.readBack_of_value h hlegible
  rw [readBack_ofText?, readBack_ofText?] at hread
  have ht := optional_text s?
  rw [hread, optional_text t?] at ht
  exact (Checked.ok.inj ht).symm

/-- An alert without its readings. -/
def outline (a : Alert) : Alert :=
  { a with readings := [] }

/-- Alerts with the same stored text differ in their readings at most. -/
theorem outline_of_storedText
    {a b : Alert}
    (h : Json.write Style.stored a.toJson = Json.write Style.stored b.toJson) :
    a.outline = b.outline := by
  obtain ⟨hid, hrest⟩ := Json.object_inj (String.ofList_injective h)
  obtain ⟨htenant, hrest⟩ := Json.fields_cons_inj hrest
  obtain ⟨hrule, hrest⟩ := Json.fields_cons_inj hrest
  obtain ⟨hdevice, hrest⟩ := Json.fields_cons_inj hrest
  obtain ⟨hstatus, hrest⟩ := Json.fields_cons_inj hrest
  obtain ⟨hseverity, hrest⟩ := Json.fields_cons_inj hrest
  obtain ⟨hmessage, hrest⟩ := Json.fields_cons_inj hrest
  obtain ⟨hdetails, hrest⟩ := Json.fields_cons_inj hrest
  obtain ⟨-, hrest⟩ := Json.fields_cons_inj hrest
  obtain ⟨htriggered, hrest⟩ := Json.fields_cons_inj hrest
  obtain ⟨hupdated, hrest⟩ := Json.fields_cons_inj hrest
  obtain ⟨hacknowledged, hrest⟩ := Json.fields_cons_inj hrest
  obtain ⟨hwho, hrest⟩ := Json.fields_cons_inj hrest
  obtain ⟨hnotes, hrest⟩ := Json.fields_cons_inj hrest
  obtain ⟨hresolved, hrest⟩ := Json.fields_cons_inj hrest
  obtain ⟨hremarks, hrest⟩ := Json.fields_cons_inj hrest
  obtain ⟨hnotifications, hrest⟩ := Json.fields_cons_inj hrest
  obtain ⟨hescalations, hrest⟩ := Json.fields_cons_inj hrest
  obtain ⟨hlast, -⟩ := Json.fields_cons_inj hrest
  simp only [outline, text_of_value hid, text_of_value htenant, text_of_value hrule,
    text_of_value hdevice, statusName_injective (text_of_value hstatus),
    severityName_injective (text_of_value hseverity), text_of_value hmessage,
    text_of_value hdetails, Moment.storedText_injective (text_of_value htriggered),
    Moment.storedText_injective (text_of_value hupdated), moment_of_value hacknowledged,
    text?_of_value hwho, text?_of_value hnotes, moment_of_value hresolved,
    text?_of_value hremarks, Json.int_of_value hnotifications, Json.int_of_value hescalations,
    moment_of_value hlast]

/-- Alerts with the same stored text have the same id, tenant, rule, device and status. -/
theorem identity_of_storedText
    {a b : Alert}
    (h : Json.write Style.stored a.toJson = Json.write Style.stored b.toJson) :
    a.id = b.id ∧ a.tenant = b.tenant ∧ a.rule = b.rule ∧ a.device = b.device ∧
      a.status = b.status := by
  have houtline := outline_of_storedText h
  exact ⟨(congrArg id houtline :), (congrArg tenant houtline :), (congrArg rule houtline :),
    (congrArg device houtline :), (congrArg status houtline :)⟩

theorem isOpen_of_storedText
    {a b : Alert}
    (h : Json.write Style.stored a.toJson = Json.write Style.stored b.toJson) :
    a.isOpen = b.isOpen := by
  obtain ⟨-, -, -, -, hstatus⟩ := identity_of_storedText h
  rw [isOpen, isOpen, hstatus]

/-- Whether an alert can be read is told by its stored text. -/
theorem isLegible_of_storedText
    {a b : Alert}
    (h : Json.write Style.stored a.toJson = Json.write Style.stored b.toJson)
    (hb : b.isLegible = true) :
    a.isLegible = true := by
  have hread := ofText_toJson a
  rw [h, ofText_toJson b, reading, reading, if_pos hb] at hread
  by_contra ha
  rw [if_neg ha] at hread
  cases hread

theorem readBack_of_storedText
    {a b : Alert}
    (h : Json.write Style.stored a.toJson = Json.write Style.stored b.toJson)
    (hb : b.isLegible = true) :
    a.readBack = b.readBack := by
  have hread := ofText_toJson a
  rw [h, ofText_toJson b, reading, reading, if_pos hb,
    if_pos (isLegible_of_storedText h hb)] at hread
  exact toJson_injective (Except.ok.inj hread).symm

/-- An alert that was read has the same stored text, if its readings name no field twice. -/
theorem storedText_readBack
    {a : Alert}
    (h : a.namesDistinct = true) :
    Json.write Style.stored a.readBack.toJson = Json.write Style.stored a.toJson := by
  have hreadings : Style.stored.value (.obj a.readBack.readings) =
      Style.stored.value (.obj a.readings) :=
    Json.value_readBack (.obj a.readings) h
  simp only [Json.write, toJson, Style.value, Style.fields]
  rw [hreadings]
  rfl

/-- Alerts with the same stored text have readings that are written alike. -/
theorem readings_of_storedText
    {a b : Alert}
    (h : Json.write Style.stored a.toJson = Json.write Style.stored b.toJson) :
    Style.stored.value (.obj a.readings) = Style.stored.value (.obj b.readings) := by
  obtain ⟨-, hrest⟩ := Json.object_inj (String.ofList_injective h)
  obtain ⟨-, hrest⟩ := Json.fields_cons_inj hrest
  obtain ⟨-, hrest⟩ := Json.fields_cons_inj hrest
  obtain ⟨-, hrest⟩ := Json.fields_cons_inj hrest
  obtain ⟨-, hrest⟩ := Json.fields_cons_inj hrest
  obtain ⟨-, hrest⟩ := Json.fields_cons_inj hrest
  obtain ⟨-, hrest⟩ := Json.fields_cons_inj hrest
  obtain ⟨-, hrest⟩ := Json.fields_cons_inj hrest
  exact (Json.fields_cons_inj hrest).1

/-- Readings that are written alike make no difference to the stored text. -/
theorem storedText_withReadings
    {a : Alert} {readings : List (String × Json)}
    (h : Style.stored.value (.obj readings) = Style.stored.value (.obj a.readings)) :
    Json.write Style.stored { a with readings := readings }.toJson =
      Json.write Style.stored a.toJson := by
  simp only [Json.write, toJson, Style.value, Style.fields]
  rw [h]

end Alert
end TelemetryAlerts
