import TelemetryAlerts.Proofs.Outcome
import TelemetryAlerts.Proofs.Web.Normal
import TelemetryAlerts.Rehearsal.World

/-!
# Fetching telemetry

The readings of a device are fetched from a service at a configured URL. Whatever the service
replies, and if it does not reply at all, a mapping comes back: the scalars of the document in a
reply that tells of success, or nothing. What is not rescued is the making of the address, so that
a URL or a device without an address lets the fetch fail.

**Results.**
* `rescued_documentIn`: of every reply, and of none, there is a mapping.
* `run_fetch_of_ok`, `run_fetch_of_error`: a fetch with an address, and one without.
* `isAcceptable_of_addressOf`: a device whose id is too long or has a control character has no
  address.
* `fetched_iff_addressed`: these together, for every URL, device, tenant and service.
-/

namespace TelemetryAlerts
namespace Query

/-- Fetches the latest readings of a device from the service at a URL. -/
def fetch (url device tenant : String) : Action Snapshot := do
  latest (← liftM (base url)) device tenant

/-- The address at which the service at a URL is asked about a device. -/
def addressOf (url device : String) : Outcome Web.Address := do
  endpoint (← base url) (latestPath device)

/-- The document in a reply that tells of success; whatever is no object counts as empty. -/
def documentIn (reply : Web.Reply) : Outcome Snapshot := do
  match ← Document.ofBytes (← reply.orBadStatus).body with
  | .obj fields => pure fields
  | _ => pure []

/-- The scalars of the object that bytes hold; nothing if they hold none. -/
def scalarsIn (bytes : List UInt8) : Snapshot :=
  match Document.ofBytes bytes with
  | .ok (.obj fields) => fields.filter fun p => p.2.isScalar
  | _ => []

/-- The readings in a reply: those of a body with a status that tells of success. -/
def readingsIn : Outcome Web.Reply → Snapshot
  | .ok r => if r.isSuccess then scalarsIn r.body else []
  | .error _ => []

/-- Nothing in the place of a failure that means that there are no readings. -/
def rescued : Outcome Snapshot → Outcome Snapshot
  | .ok s => .ok s
  | .error e => if meansNoReadings e then .ok [] else .error e

/-- A request fails for a fault of the request, or for an address that names no protocol. -/
def IsRequestFault (e : Failure) : Prop :=
  e.isRequestFailure = true ∨ e = .namelessProtocol

/-! ### Replies -/

theorem IsRequestFault.meansNoReadings
    {e : Failure}
    (h : IsRequestFault e) :
    meansNoReadings e = true := by
  rcases h with h | rfl
  · simp [Query.meansNoReadings, h]
  · rfl

/-- Bytes that hold no document mean that there are no readings. -/
theorem meansNoReadings_of_ofBytes
    {bytes : List UInt8} {e : Failure}
    (h : Document.ofBytes bytes = .error e) :
    meansNoReadings e = true := by
  unfold Document.ofBytes Document.ofText at h
  split at h
  · split at h <;> cases h <;> rfl
  · cases h
    rfl

/-- Of every reply, and of none, there is a mapping. -/
theorem rescued_documentIn
    {reply : Outcome Web.Reply}
    (h : ∀ e, reply = .error e → IsRequestFault e) :
    rescued (Snapshot.normalize <$> (reply >>= documentIn)) = .ok (readingsIn reply) := by
  cases reply with
  | error e =>
      exact if_pos (h e rfl).meansNoReadings
  | ok r =>
      rw [ok_bind, documentIn, Web.Reply.orBadStatus, readingsIn]
      split_ifs with hsuccess
      · rw [ok_bind, scalarsIn]
        cases hdocument : Document.ofBytes r.body with
        | error e =>
            exact if_pos (meansNoReadings_of_ofBytes hdocument)
        | ok v =>
            cases v <;> rfl
      · rfl

/-! ### Runs -/

theorem eq_invalidAddress_of_base
    {url : String} {e : Failure}
    (h : base url = .error e) :
    e = .invalidAddress := by
  unfold base at h
  dsimp only at h
  split at h
  · cases h
  · exact (Except.error.inj h).symm

theorem eq_invalidAddress_of_endpoint
    {base : Web.Address} {path : String} {e : Failure}
    (h : endpoint base path = .error e) :
    e = .invalidAddress := by
  unfold endpoint at h
  split at h
  · cases h
  · exact (Except.error.inj h).symm

section

variable {σ : Type} {handle : (g : Get) → σ → Outcome Web.Reply × σ}
  {url device tenant : String} {a : Web.Address} {e : Failure} {s : σ}

theorem run_lift
    {α : Type} (o : Outcome α) (s : σ) :
    Program.run handle (ExceptT.run (liftM o : Action α)) s = (o, s) :=
  rfl

theorem run_ask
    (g : Get) (s : σ) :
    Program.run handle (ExceptT.run (ask g)) s = handle g s :=
  rfl

/-- What follows from a reply makes no further request. -/
theorem run_documentIn
    (reply : Web.Reply) (s : σ) :
    Program.run handle (ExceptT.run (do
      let reply ← liftM reply.orBadStatus
      match ← liftM (Document.ofBytes reply.body) with
      | .obj fields => pure fields
      | _ => pure [] : Action Snapshot)) s = (documentIn reply, s) := by
  rw [documentIn, Program.run_bindAction, run_lift]
  cases reply.orBadStatus with
  | error e =>
      rfl
  | ok r =>
      dsimp only
      rw [ok_bind, Program.run_bindAction, run_lift]
      cases Document.ofBytes r.body with
      | error e =>
          rfl
      | ok v =>
          cases v <;> rfl

theorem run_latestDocument_of_ok
    {base : Web.Address}
    (ha : endpoint base (latestPath device) = .ok a) :
    Program.run handle (ExceptT.run (latestDocument base device tenant)) s =
      if fitsHeader tenant then
        ((handle ⟨a, some tenant⟩ s).1 >>= documentIn, (handle ⟨a, some tenant⟩ s).2)
      else (.error .unencodableHeader, s) := by
  rw [latestDocument, Program.run_bindAction, run_lift, ha]
  dsimp only
  split_ifs with hfits
  · rw [Program.run_bindAction, run_ask]
    rcases handle ⟨a, some tenant⟩ s with ⟨e | reply, s'⟩
    · rfl
    · exact run_documentIn reply s'
  · rfl

theorem run_latestDocument_of_error
    {base : Web.Address}
    (he : endpoint base (latestPath device) = .error e) :
    Program.run handle (ExceptT.run (latestDocument base device tenant)) s = (.error e, s) := by
  rw [latestDocument, he]
  rfl

theorem run_latest
    (base : Web.Address) (device tenant : String) (s : σ) :
    Program.run handle (ExceptT.run (latest base device tenant)) s =
      (rescued (Snapshot.normalize <$>
          (Program.run handle (ExceptT.run (latestDocument base device tenant)) s).1),
        (Program.run handle (ExceptT.run (latestDocument base device tenant)) s).2) := by
  rw [latest, Program.run_rescueAction, Program.run_mapAction]
  rcases Program.run handle (ExceptT.run (latestDocument base device tenant)) s with
    ⟨e | fields, s'⟩
  · change Program.run handle
      (ExceptT.run (if meansNoReadings e then pure [] else throw e)) s' =
        (if meansNoReadings e then .ok [] else .error e, s')
    split_ifs <;> rfl
  · rfl

/-- A fetch with an address makes one request, if the tenant can be named in it, and has the
readings in the reply. -/
theorem run_fetch_of_ok
    (hfault : ∀ g t e, (handle g t).1 = .error e → IsRequestFault e)
    (ha : addressOf url device = .ok a) :
    Program.run handle (ExceptT.run (fetch url device tenant)) s =
      if fitsHeader tenant then
        (.ok (readingsIn (handle ⟨a, some tenant⟩ s).1), (handle ⟨a, some tenant⟩ s).2)
      else (.ok [], s) := by
  obtain ⟨base, hbase, hendpoint⟩ := bind_eq_ok.mp ha
  rw [fetch, Program.run_bindAction, run_lift, hbase]
  dsimp only
  rw [run_latest, run_latestDocument_of_ok hendpoint]
  split_ifs with hfits
  · rw [rescued_documentIn (hfault ⟨a, some tenant⟩ s)]
  · rfl

/-- A fetch without an address fails, and asks nobody. -/
theorem run_fetch_of_error
    (he : addressOf url device = .error e) :
    Program.run handle (ExceptT.run (fetch url device tenant)) s = (.error .invalidAddress, s) := by
  rw [fetch, Program.run_bindAction, run_lift]
  cases hbase : base url with
  | error e' =>
      rw [eq_invalidAddress_of_base hbase]
  | ok b =>
      rw [addressOf, hbase, ok_bind] at he
      dsimp only
      rw [run_latest, run_latestDocument_of_error he, eq_invalidAddress_of_endpoint he]
      rfl

end

/-! ### Addresses -/

theorem latestPath_toList
    (device : String) :
    (latestPath device).toList =
      "/api/timeseries/telemetry/device/".toList ++ (device.toList ++ "/latest".toList) := by
  rw [← List.append_assoc, ← String.toList_append, ← String.toList_append]
  rfl

theorem isAcceptable_of_endpoint
    {base a : Web.Address} {path : String}
    (h : endpoint base path = .ok a) :
    Web.Address.isAcceptable path.toList = true := by
  by_contra hnot
  rw [endpoint, Web.Address.ofText?, if_neg hnot] at h
  cases h

/-- A device with an address has an id that is not too long and has no control character. -/
theorem isAcceptable_of_addressOf
    {url device : String} {a : Web.Address}
    (h : addressOf url device = .ok a) :
    Web.Address.isAcceptable device.toList = true := by
  obtain ⟨base, -, hendpoint⟩ := bind_eq_ok.mp h
  have hpath := isAcceptable_of_endpoint hendpoint
  rw [latestPath_toList] at hpath
  exact (Web.Address.isAcceptable_of_append (Web.Address.isAcceptable_of_append hpath).2).1

end Query

/-- A worker with a service as its source fetches its telemetry so. -/
theorem Rehearsal.World.latest_of_service
    {w : World} {url : String}
    (h : w.telemetry = .service url)
    (device tenant : String) :
    (latest device tenant w).1 =
      (Program.run query (ExceptT.run (Query.fetch url device tenant))
        { w with isServiceOpen := true }).1 := by
  rw [Query.fetch, Program.run_bindAction, Query.run_lift]
  cases hbase : Query.base url with
  | error e =>
      simp only [latest, h, hbase]
  | ok base =>
      simp only [latest, h, hbase]
      rfl

open Query

/-- **Every reply gives a mapping, but not every device can be asked about.** A fetch with an
address gives the scalars in a reply that tells of success, and nothing for every other reply,
for a request that fails and for a tenant that cannot be named. A fetch without an address fails;
so does every fetch for a device whose id is too long or has a control character. -/
theorem fetched_iff_addressed
    {σ : Type} {handle : (g : Get) → σ → Outcome Web.Reply × σ}
    (hfault : ∀ g t e, (handle g t).1 = .error e → IsRequestFault e)
    (url device tenant : String) (s : σ) :
    (∀ a, addressOf url device = .ok a →
      Program.run handle (ExceptT.run (fetch url device tenant)) s =
        if fitsHeader tenant then
          (.ok (readingsIn (handle ⟨a, some tenant⟩ s).1), (handle ⟨a, some tenant⟩ s).2)
        else (.ok [], s)) ∧
      ((∀ a, addressOf url device ≠ .ok a) →
        Program.run handle (ExceptT.run (fetch url device tenant)) s =
          (.error .invalidAddress, s)) ∧
      (¬ Web.Address.isAcceptable device.toList = true → ∀ a, addressOf url device ≠ .ok a) := by
  refine ⟨fun a ha => run_fetch_of_ok hfault ha, fun hnone => ?_,
    fun h a ha => h (isAcceptable_of_addressOf ha)⟩
  cases haddress : addressOf url device with
  | error e =>
      exact run_fetch_of_error haddress
  | ok a =>
      exact absurd haddress (hnone a)

/-- A reply with a reading. -/
def levelReply : Web.Reply :=
  ⟨200, "\x7b\"level\": 3\x7d".toUTF8.toList⟩

/-- A service that gives this reply to whatever it is asked, and counts the requests. -/
def gauge : Get → Nat → Outcome Web.Reply × Nat :=
  fun _ n => (.ok levelReply, n + 1)

theorem fetched_iff_addressed_gauge :
    (∀ g t e, (gauge g t).1 = .error e → IsRequestFault e) ∧
      ∃ snapshot, snapshot.map Prod.fst = ["level"] ∧
        Program.run gauge (ExceptT.run (fetch "http://query.test" "tank-1" "tenant-a")) 0 =
          (.ok snapshot, 1) := by
  have hfault : ∀ g t e, (gauge g t).1 = .error e → IsRequestFault e := nofun
  obtain ⟨a, ha⟩ : ∃ a, addressOf "http://query.test" "tank-1" = .ok a := ⟨_, rfl⟩
  refine ⟨hfault, readingsIn (.ok levelReply), by decide +kernel, ?_⟩
  rw [(fetched_iff_addressed hfault "http://query.test" "tank-1" "tenant-a" 0).1 a ha,
    if_pos (by decide)]
  rfl

/-- A device with a control character in its id lets a fetch fail. -/
theorem not_fetched_tank :
    ¬ ∀ url device tenant, ∃ snapshot,
      (Program.run gauge (ExceptT.run (fetch url device tenant)) 0).1 = .ok snapshot := by
  intro hall
  obtain ⟨snapshot, h⟩ := hall "http://query.test" "tank\n1" "tenant-a"
  cases h

end TelemetryAlerts
