import TelemetryAlerts.Proofs.Notification.Reaching
import TelemetryAlerts.Telemetry.Query

/-!
# Posting what was read

The readings that the query service gives for a device go into the alert that a rule raises, and
with the alert into the document for programs. The service may give numbers that are not finite,
and no condition minds them; but a document with such a number cannot be posted.

**Results.**
* `Query.isScalar_of_found`: what is taken for the readings of a device.
* `allFinite_payload_iff`: which readings make a document that can be posted.
* `posted_iff_finite`: an alert is posted to its recipients just if all numbers among the
  readings are finite, and to nobody otherwise.
-/

namespace TelemetryAlerts

/-! ### Readings -/

/-- What is found to be the latest readings of a device if the query service gives a reply. -/
def Query.found (base : Web.Address) (device tenant : String) (reply : Outcome Web.Reply) :
    Outcome Snapshot :=
  (Program.run (fun _ _ => (reply, ())) (ExceptT.run (latest base device tenant)) ()).1

theorem Query.found_eq
    (base : Web.Address) (device tenant : String) (reply : Outcome Web.Reply) :
    found base device tenant reply =
      match (Program.run (fun _ _ => (reply, ()))
        (ExceptT.run (latestDocument base device tenant)) ()).1 with
      | .ok fields => .ok (Snapshot.normalize fields)
      | .error e => if meansNoReadings e then .ok [] else .error e := by
  rw [found, latest, Program.run_rescueAction, Program.run_mapAction]
  rcases Program.run (fun _ _ => (reply, ()))
    (ExceptT.run (latestDocument base device tenant)) () with ⟨e | fields, -⟩
  · change (Program.run _ (ExceptT.run (if meansNoReadings e then pure [] else throw e)) ()).1 =
      if meansNoReadings e then .ok [] else .error e
    split_ifs <;> rfl
  · rfl

/-- Only scalars are taken for readings. -/
theorem Query.isScalar_of_found
    {base : Web.Address} {device tenant : String} {reply : Outcome Web.Reply} {s : Snapshot}
    (h : found base device tenant reply = .ok s) :
    ∀ p ∈ s, p.2.isScalar = true := by
  rw [found_eq] at h
  split at h
  · cases h
    exact fun p hp => (List.mem_filter.mp hp).2
  · split_ifs at h
    cases h
    exact nofun

/-- Whether all numbers among readings are finite. -/
def Snapshot.IsFinite (s : Snapshot) : Prop :=
  ∀ p ∈ s, ∀ x, p.2 = .float x → Number.isFinite x = true

theorem Json.allFiniteFields_iff
    {fields : List (String × Json)} :
    allFiniteFields fields = true ↔ ∀ p ∈ fields, p.2.allFinite = true := by
  induction fields with
  | nil =>
      simp [allFiniteFields]
  | cons p rest ih =>
      simp [allFiniteFields, ih]

theorem Json.allFinite_iff_of_isScalar
    {v : Json}
    (h : v.isScalar = true) :
    v.allFinite = true ↔ ∀ x, v = .float x → Number.isFinite x = true := by
  cases v with
  | null | bool | int | str =>
      simp [allFinite]
  | float x =>
      simp [allFinite]
  | arr | obj =>
      cases h

theorem allFinite_payload
    (n : Notice) :
    n.payload.allFinite = Json.allFiniteFields n.alert.readings := by
  simp [Notice.payload, Notice.payloadFields, Json.allFinite, Json.allFiniteFields]

/-- A document can be posted just if all numbers among the readings are finite. -/
theorem allFinite_payload_iff
    {n : Notice}
    (h : ∀ p ∈ n.alert.readings, p.2.isScalar = true) :
    n.payload.allFinite = true ↔ Snapshot.IsFinite n.alert.readings := by
  rw [allFinite_payload, Json.allFiniteFields_iff]
  exact forall₂_congr fun p hp => Json.allFinite_iff_of_isScalar (h p hp)

/-! ### Posts -/

namespace WebhookConfig

variable {c : WebhookConfig} {n : Notice} {recipients : List String}
  {replies : Nat → Outcome Web.Reply}

/-- Somebody with an address is posted the document, if it can be posted. -/
theorem post_mem_of_allFinite
    (hfinite : n.payload.allFinite = true) {url : String} {a : Web.Address}
    (hurl : url ∈ recipients)
    (ha : address url = .ok a) :
    .post a n.payload ∈
      (Program.run (answering replies) (ExceptT.run (c.deliver n recipients)) []).2 := by
  obtain ⟨logs, outcomes, hruns, hsent⟩ := exists_runs_deliver c n recipients replies
  obtain ⟨i, rfl⟩ := List.get_of_mem hurl
  have hcourse := (tries_of_run hfinite hruns).course i
  obtain ⟨k, -, hlog, -⟩ := hcourse.posts a ha
  rw [hsent]
  refine List.mem_flatten.mpr ⟨logs i, List.mem_ofFn.mpr ⟨i, rfl⟩, ?_⟩
  rw [hlog]
  exact List.mem_cons_self

/-- A document that cannot be posted is posted to nobody, and the send fails. -/
theorem run_deliver_of_not_allFinite
    (hinfinite : n.payload.allFinite = false)
    (c : WebhookConfig) (recipients : List String) (replies : Nat → Outcome Web.Reply) :
    Program.run (answering replies) (ExceptT.run (c.deliver n recipients)) [] =
      (.error (.delivery (.webhooksFailed recipients.length)), []) := by
  obtain ⟨logs, outcomes, hruns, hsent⟩ := exists_runs_deliver c n recipients replies
  have hcall (url : String) : ∃ e, c.call n.payload url = throw e := by
    cases ha : address url with
    | ok a =>
        exact ⟨.kind .unusableValue, by rw [call, ha, hinfinite]; rfl⟩
    | error e =>
        exact ⟨e, by rw [call, ha]; rfl⟩
  have hrefused (i : Fin recipients.length) : (outcomes i).isOk = false ∧ logs i = [] := by
    obtain ⟨e, he⟩ := hcall (recipients.get i)
    have hrun := hruns i
    rw [he] at hrun
    obtain ⟨houtcome, hlog⟩ := Prod.mk.inj hrun
    exact ⟨by rw [← houtcome]; rfl, hlog.symm⟩
  have hfails : concluded .webhooksFailed (List.ofFn outcomes) =
      .error (.delivery (.webhooksFailed recipients.length)) :=
    (concludes_concluded .webhooksFailed outcomes).fails.mpr fun i => (hrefused i).1
  have hlogs : (List.ofFn logs).flatten = [] :=
    List.flatten_eq_nil_iff.mpr (List.forall_mem_ofFn_iff.mpr fun i => (hrefused i).2)
  rw [hsent, hfails, hlogs]

end WebhookConfig

open WebhookConfig

/-- What is told of an alert that is raised on given readings. -/
def raisedNotice (id : String) (r : Rule) (device : String) (s : Snapshot) (now : Moment)
    (event : Event) : Notice where
  alert := Worker.raisedAlert id r device s now
  rule := r
  event := event

/-- An alert that is raised on what the query service replies is posted to whoever has an
address if all numbers among the readings are finite; otherwise it is posted to nobody, and
the send fails. -/
theorem posted_iff_finite
    {base : Web.Address} {device tenant : String} {reply : Outcome Web.Reply} {s : Snapshot}
    (hfound : Query.found base device tenant reply = .ok s)
    (c : WebhookConfig) (r : Rule) (id : String) (now : Moment) (event : Event)
    (recipients : List String) (replies : Nat → Outcome Web.Reply) :
    (∀ url ∈ recipients, ∀ a, address url = .ok a →
      (.post a (raisedNotice id r device s now event).payload ∈
          (Program.run (answering replies)
            (ExceptT.run (c.deliver (raisedNotice id r device s now event) recipients)) []).2 ↔
        s.IsFinite)) ∧
    (¬ s.IsFinite →
      Program.run (answering replies)
          (ExceptT.run (c.deliver (raisedNotice id r device s now event) recipients)) [] =
        (.error (.delivery (.webhooksFailed recipients.length)), [])) := by
  have hiff : (raisedNotice id r device s now event).payload.allFinite = true ↔ s.IsFinite :=
    allFinite_payload_iff (Query.isScalar_of_found hfound)
  have hnobody (hinfinite : ¬ s.IsFinite) :=
    run_deliver_of_not_allFinite (Bool.eq_false_iff.mpr (hiff.not.mpr hinfinite)) c recipients
      replies
  refine ⟨fun url hurl a ha => ⟨fun hposted => ?_, fun hfinite => ?_⟩, hnobody⟩
  · by_contra hinfinite
    rw [hnobody hinfinite] at hposted
    cases hposted
  · exact post_mem_of_allFinite (hiff.mpr hfinite) hurl ha

/-- The base address of a query service. -/
def boilerService : Web.Address where
  scheme := "http".toList
  userinfo := []
  host := "query.test".toList
  port? := none
  path := "/".toList
  query? := none
  fragment? := none

/-- What is found to be the latest readings of the boiler if the query service replies with a
text. -/
def boilerReadings (text : String) : Outcome Snapshot :=
  Query.found boilerService "boiler-1" "tenant-a" (.ok ⟨200, text.toUTF8.toList⟩)

/-- The web hook that is told of the boiler. -/
def boilerHook : String :=
  "https://hooks.example.com/alerts"

/-- Readings are told by what can be decided of them, as there is no deciding whether they are
some given ones. -/
theorem exists_boilerReadings
    (text : String) (P : Snapshot → Bool)
    (h : (boilerReadings text).toOption.any P = true) :
    ∃ s, boilerReadings text = .ok s ∧ P s = true := by
  cases hfound : boilerReadings text with
  | error e =>
      rw [hfound] at h
      cases h
  | ok s =>
      rw [hfound] at h
      exact ⟨s, rfl, h⟩

theorem exists_address_boilerHook :
    ∃ a, address boilerHook = .ok a := by
  have hok : (address boilerHook).isOk = true := by decide +kernel
  cases haddress : address boilerHook with
  | error e =>
      rw [haddress] at hok
      cases hok
  | ok a =>
      exact ⟨a, rfl⟩

/-- A boiler that is too hot is told of, as long as all its readings are finite. -/
theorem posted_iff_finite_boiler :
    ∃ s a, boilerReadings "\x7b\"temperature\": 95, \"flow\": 3\x7d" = .ok s ∧
      address boilerHook = .ok a ∧
      .post a (raisedNotice "a1" boilerRule "boiler-1" s .epoch .triggered).payload ∈
        (Program.run (answering fun _ => .ok ⟨200, []⟩) (ExceptT.run (WebhookConfig.deliver {}
          (raisedNotice "a1" boilerRule "boiler-1" s .epoch .triggered) [boilerHook])) []).2 := by
  obtain ⟨s, hfound, hfinite⟩ := exists_boilerReadings
    "\x7b\"temperature\": 95, \"flow\": 3\x7d" Json.allFiniteFields (by decide +kernel)
  obtain ⟨a, ha⟩ := exists_address_boilerHook
  refine ⟨s, a, hfound, ha, ?_⟩
  refine ((posted_iff_finite hfound {} boilerRule "a1" .epoch .triggered [boilerHook] _).1
    boilerHook List.mem_cons_self a ha).mpr fun p hp x hx => ?_
  have hfloat := Json.allFiniteFields_iff.mp hfinite p hp
  rwa [hx] at hfloat

/-- If the reading of its flow is no number, the same boiler is too hot without anybody being
told. -/
theorem unposted_boiler :
    ∃ s a, boilerReadings "\x7b\"temperature\": 95, \"flow\": NaN\x7d" = .ok s ∧
      s ≠ [] ∧ boilerRule.fires s = true ∧ address boilerHook = .ok a ∧
      ∀ replies, .post a (raisedNotice "a1" boilerRule "boiler-1" s .epoch .triggered).payload ∉
        (Program.run (answering replies) (ExceptT.run (WebhookConfig.deliver {}
          (raisedNotice "a1" boilerRule "boiler-1" s .epoch .triggered) [boilerHook])) []).2 := by
  obtain ⟨s, hfound, hchecks⟩ := exists_boilerReadings
    "\x7b\"temperature\": 95, \"flow\": NaN\x7d"
    (fun s => !s.isEmpty && boilerRule.fires s && !Json.allFiniteFields s) (by decide +kernel)
  obtain ⟨a, ha⟩ := exists_address_boilerHook
  simp only [Bool.and_eq_true, Bool.not_eq_true', List.isEmpty_eq_false_iff] at hchecks
  obtain ⟨⟨hsome, hfires⟩, hinfinite⟩ := hchecks
  refine ⟨s, a, hfound, hsome, hfires, ha, fun replies => ?_⟩
  rw [run_deliver_of_not_allFinite ((allFinite_payload _).trans hinfinite)]
  exact List.not_mem_nil

end TelemetryAlerts
