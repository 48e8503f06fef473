import TelemetryAlerts.Proofs.Service.Confinement
import TelemetryAlerts.Proofs.Store.Lasting
import TelemetryAlerts.Proofs.Web.Segments

/-!
# Moving alerts on through the service

An operator takes notice of an alert, or ends it, through a page of the alert. The page asks the
store for the change; if nothing was changed, it asks for the alert to tell why. So the answer
says what became of the alert, on both kinds of store.

**Results.**
* `find_move`: the page is found under every id that fits in one segment of a path.
* `reports_answer`: the answer of the page, and what becomes of the store.
* `moves_reported`: the answer says what became of the alert.
-/

namespace TelemetryAlerts

/-- The page that moves the alert with an id on. -/
def Move.page : Move → String → Service.AlertPage
  | acknowledge => .acknowledge
  | resolve => .resolve

/-- The answer about an alert that was moved on. -/
def Move.done : Move → String → Service.Response
  | acknowledge => Service.AlertTask.moved "acknowledged"
  | resolve => Service.AlertTask.moved "resolved"

/-- Why an alert is not moved on. -/
def Move.excuse : Move → String
  | acknowledge => "is not active"
  | resolve => "is already resolved"

namespace Service

open Program

variable {move : Move} {i : Inquiry} {id tenant : String}

/-! ### The page -/

/-- Whether an inquiry asks on behalf of a tenant to move the alert with an id on. -/
structure Asks (move : Move) (id tenant : String) (i : Inquiry) : Prop where
  method : i.method = "POST"
  path : i.path = "/api/alert/" ++ id ++ "/" ++ move.segment
  tenant : i.header? "x-tenant-id" = some tenant

/-- Whether a name fits in one segment of a path. -/
def IsSegment (name : String) : Prop :=
  name ≠ "" ∧ '/' ∉ name.toList

/-- The page is found under every id that fits in one segment of a path. -/
theorem find_move
    (h : Asks move id tenant i)
    (hid : IsSegment id) :
    Place.find i.method i.path = .page (.alerts (move.page id)) := by
  have hsegments : i.path.splitOn "/" = ["", "api", "alert", id, move.segment] := by
    have hpath : i.path.toList = [] ++ '/' :: ("api".toList ++ '/' :: ("alert".toList ++
        '/' :: (id.toList ++ '/' :: move.segment.toList))) := by
      simp [h.path]
    have hlast : '/' ∉ move.segment.toList := by
      cases move <;> decide
    rw [Web.splitOn_slash, hpath, Web.splitAt_of_first List.not_mem_nil,
      Web.splitAt_of_first (by decide), Web.splitAt_of_first (by decide),
      Web.splitAt_of_first hid.2, Web.splitAt_of_notMem hlast]
    simp
  have hpage : Page.ofPath? i.path = some (.alerts (move.page id)) := by
    rw [Page.ofPath?, Page.at?, hsegments]
    have hnamed : id.isEmpty = false := by simpa using hid.1
    cases move <;> simp [Move.segment, Page.ofSegments?, Page.named, hnamed, Move.page]
  rw [Place.find, hpage, h.method]
  cases move <;> rfl

/-! ### What the page does -/

/-- The page refuses what it does not understand with an answer of its own. -/
theorem status_of_refusal
    {response : Response}
    (h : AlertTask.ofInquiry (move.page id) i = .error response) :
    response.status ∈ [400, 422, 500] := by
  have hremark {α : Type} {default : α} {check : Entries Json → Checked α}
      {toTask : α → AlertTask} (h : i.withRemark default check toTask = .error response) :
      response.status ∈ [400, 422, 500] := by
    rcases bind_eq_error.mp h with h | ⟨v, -, h⟩
    · unfold Inquiry.document at h
      split_ifs at h
      split at h <;> cases h <;> simp [Response.refusing, Response.saying]
    · rcases bind_eq_error.mp h with h | ⟨remark, -, h⟩
      · unfold Inquiry.quoting at h
        split at h
        · cases h
        · split_ifs at h
          cases h
          decide
      · unfold Inquiry.forTenant Inquiry.understand at h
        split at h <;> cases h
        simp [Response.refusing]
  cases move <;> exact hremark h

theorem exists_of_withRemark
    {α : Type} {default : α} {check : Entries Json → Checked α} {toTask : α → AlertTask}
    {task : AlertTask} {t : String}
    (h : i.withRemark default check toTask = .ok (t, task)) :
    ∃ x, task = toTask x := by
  obtain ⟨v, -, h⟩ := bind_eq_ok.mp h
  obtain ⟨remark, -, h⟩ := bind_eq_ok.mp h
  unfold Inquiry.forTenant Inquiry.understand at h
  cases htenant : i.tenant with
  | bad complaints =>
      rw [htenant] at h
      cases remark <;> cases h
  | ok t =>
      rw [htenant] at h
      cases remark with
      | bad complaints =>
          cases h
      | ok x =>
          cases h
          exact ⟨x, rfl⟩

/-- Without a body the page always understands. -/
theorem exists_task
    (move : Move) (id : String)
    (htenant : i.header? "x-tenant-id" = some tenant)
    (hbody : i.body = []) :
    ∃ task, AlertTask.ofInquiry (move.page id) i = .ok task := by
  have hremark {α : Type} (default : α) (check : Entries Json → Checked α)
      (toTask : α → AlertTask) : ∃ task, i.withRemark default check toTask = .ok task := by
    refine ⟨(tenant, toTask default), ?_⟩
    have hread : i.tenant = .ok tenant := by
      rw [Inquiry.tenant, htenant]
      rfl
    simp only [Inquiry.withRemark, Inquiry.document, hbody, Inquiry.forTenant, hread]
    rfl
  cases move <;> exact hremark _ _ _

section

variable {σ α : Type} (serve : (r : Request) → σ → Outcome r.Reply × σ) {r : Request} {s : σ}

theorem run_ask_of_ok
    {x : r.Reply}
    (h : (serve r s).1 = .ok x)
    (f : r.Reply → StoreAction α) :
    (ExceptT.run (StoreAction.ask r >>= f)).run serve s =
      (ExceptT.run (f x)).run serve (serve r s).2 := by
  have hask : run serve (ExceptT.run (StoreAction.ask r)) s = (.ok x, (serve r s).2) :=
    Prod.ext h rfl
  rw [run_bindAction, hask]

theorem run_ask_of_error
    {e : Failure}
    (h : (serve r s).1 = .error e)
    (f : r.Reply → StoreAction α) :
    (ExceptT.run (StoreAction.ask r >>= f)).run serve s = (.error e, (serve r s).2) := by
  have hask : run serve (ExceptT.run (StoreAction.ask r)) s = (.error e, (serve r s).2) :=
    Prod.ext h rfl
  rw [run_bindAction, hask]

/-- The answer about an alert that was found, or not, when it was not moved on. -/
def excused (move : Move) (id : String) : Option Alert → Response
  | none => AlertTask.notFound id
  | some _ => .saying 409 ("Alert '" ++ id ++ "' " ++ move.excuse)

theorem run_refused_of_ok
    {found? : Option Alert}
    (h : (serve (.get id tenant) s).1 = .ok found?) :
    (ExceptT.run (AlertTask.refused id tenant move.excuse)).run serve s =
      (.ok (excused move id found?), (serve (.get id tenant) s).2) :=
  (run_ask_of_ok serve h _).trans (by cases found? <;> rfl)

theorem run_refused_of_error
    {e : Failure}
    (h : (serve (.get id tenant) s).1 = .error e) :
    (ExceptT.run (AlertTask.refused id tenant move.excuse)).run serve s =
      (.error e, (serve (.get id tenant) s).2) :=
  run_ask_of_error serve h _

end

/-- What the page asks of the store, and how it goes on. -/
structure Attempts (move : Move) (id tenant : String) (now : Moment) (task : AlertTask)
    (r : Request) (c : Change) : Prop where
  asks : r.change? now = some c
  target : c.id = id ∧ c.tenant = tenant
  may : ∀ a, c.may a = move.may a.status
  status : ∀ a, (c.apply a).status = move.target
  legible : ∀ a : Alert, a.isLegible = true → (c.apply a).isLegible = true
  done : ∀ {σ : Type} (serve : (r : Request) → σ → Outcome r.Reply × σ) {s : σ},
    r.Tells true (serve r s).1 →
      (ExceptT.run (task.carryOut tenant)).run serve s = (.ok (move.done id), (serve r s).2)
  refused : ∀ {σ : Type} (serve : (r : Request) → σ → Outcome r.Reply × σ) {s : σ},
    r.Tells false (serve r s).1 →
      (ExceptT.run (task.carryOut tenant)).run serve s =
        (ExceptT.run (AlertTask.refused id tenant move.excuse)).run serve (serve r s).2
  failed : ∀ {σ : Type} (serve : (r : Request) → σ → Outcome r.Reply × σ) {s : σ} {e : Failure},
    (serve r s).1 = .error e →
      (ExceptT.run (task.carryOut tenant)).run serve s = (.error e, (serve r s).2)

theorem exists_attempts
    {task : AlertTask} {t : String}
    (htenant : i.header? "x-tenant-id" = some tenant)
    (h : AlertTask.ofInquiry (move.page id) i = .ok (t, task))
    (now : Moment) :
    t = tenant ∧ ∃ r c, Attempts move id tenant now task r c := by
  refine ⟨tenant_ofInquiry htenant h, ?_⟩
  cases move with
  | acknowledge =>
      obtain ⟨a, rfl⟩ := exists_of_withRemark h
      exact ⟨.acknowledge id tenant a.who? a.notes?, .acknowledge now id tenant a.who? a.notes?, {
        asks := rfl
        target := ⟨rfl, rfl⟩
        may := fun _ => rfl
        status := fun _ => rfl
        legible := fun x hx => (Alert.isLegible_iff _).mpr ((Alert.isLegible_iff x).mp hx)
        done := fun serve _ hs => run_ask_of_ok serve hs _
        refused := fun serve _ hs => run_ask_of_ok serve hs _
        failed := fun serve _ _ hs => run_ask_of_error serve hs _ }⟩
  | resolve =>
      obtain ⟨a, rfl⟩ := exists_of_withRemark h
      exact ⟨.resolve id tenant a.notes?, .resolve now id tenant a.notes?, {
        asks := rfl
        target := ⟨rfl, rfl⟩
        may := fun _ => rfl
        status := fun _ => rfl
        legible := fun x hx => (Alert.isLegible_iff _).mpr ((Alert.isLegible_iff x).mp hx)
        done := fun serve _ hs => run_ask_of_ok serve hs _
        refused := fun serve _ hs => run_ask_of_ok serve hs _
        failed := fun serve _ _ hs => run_ask_of_error serve hs _ }⟩

/-! ### The answer -/

variable {st : Store} {used : List String} {now : Moment}

/-- What is answered, and what becomes of the store, for an alert that was moved on, one that is
not there, one that is not moved on, and one that cannot be read. -/
inductive Reports (move : Move) (id tenant : String) (st : Store) : Response × Store → Prop where
  | moved {a b : Alert} {t : Turn}
      (ha : st.Holds a)
      (hid : a.id = id)
      (htenant : a.tenant = tenant)
      (hmay : move.may a.status = true)
      (hsame : b.origin = a.origin)
      (hstatus : b.status = move.target)
      (hnew : t.created? = none)
      (hafter : ∀ d, (st.after [t]).Holds d ↔ if d.id = id then d = b else st.Holds d) :
      Reports move id tenant st (move.done id, st.after [t])
  | unknown
      (hnone : ∀ a, st.Holds a → a.id = id → a.tenant ≠ tenant) :
      Reports move id tenant st (AlertTask.notFound id, st)
  | refused {a : Alert}
      (ha : st.Holds a)
      (hid : a.id = id)
      (htenant : a.tenant = tenant)
      (hmay : move.may a.status = false) :
      Reports move id tenant st
        (.saying 409 ("Alert '" ++ id ++ "' " ++ move.excuse), st)
  | unread {response : Response}
      (hlong : ¬ st.Reads (·.id = id))
      (hstatus : response.status ≠ 200) :
      Reports move id tenant st (response, st)

/-- The response to what a task gives; if it fails, the service fails. -/
def sent : Outcome Response → Response
  | .ok response => response
  | .error _ => .failed

/-- What the page answers once the store has told that nothing was changed. -/
theorem reports_refused
    (move : Move) (now : Moment)
    (h : st.Sound used)
    (hnone : ∀ a, st.Holds a → a.id = id → a.tenant = tenant → move.may a.status = false) :
    ∃ o, (ExceptT.run (AlertTask.refused id tenant move.excuse)).run
        (fun r st => st.serve now r) st = (o, st) ∧
      Reports move id tenant st (sent o, st) := by
  have hsame : (st.serve now (.get id tenant)).2 = st := h.serve_read now rfl
  have hfound {found? : Option Alert} (hget : (st.serve now (.get id tenant)).1 = .ok found?) :
      (ExceptT.run (AlertTask.refused id tenant move.excuse)).run
        (fun r st => st.serve now r) st = (.ok (excused move id found?), st) :=
    (run_refused_of_ok _ hget).trans (congrArg (Prod.mk _) hsame)
  by_cases hreads : st.Reads (·.id = id)
  · rcases h.serve_get hreads now tenant with ⟨a, ha, hid, htenant, hget⟩ | ⟨hmissing, hget⟩
    · exact ⟨_, hfound hget, .refused ha hid htenant (hnone a ha hid htenant)⟩
    · exact ⟨_, hfound hget, .unknown hmissing⟩
  · cases hget : (st.serve now (.get id tenant)).1 with
    | ok found? =>
        refine ⟨_, hfound hget, .unread hreads ?_⟩
        cases found? <;> simp [sent, excused, AlertTask.notFound, Response.saying]
    | error e =>
        refine ⟨.error e, ?_, .unread hreads (by simp [sent, Response.failed])⟩
        exact (run_refused_of_error _ hget).trans (congrArg (Prod.mk _) hsame)

section

variable {handle : (c : Call) → Store → c.Reply × Store}

/-- What the page answers is what the service answers. -/
theorem run_page
    {x : Response × Store}
    (config : Config)
    (hasks : Asks move id tenant i)
    (hid : IsSegment id)
    (hstore : ∀ r st, handle (.store r) st = st.serve now r)
    (hpage : ((move.page id).answer i).run (fun r st => st.serve now r) st = x) :
    (answer config i).run handle st = x := by
  have hpost : ¬ i.method = "HEAD" := by simp [hasks.method]
  rw [run_answer config (find_move hasks hid) hstore, hpage]
  simp only [if_neg hpost]

/-- What the page refuses leaves the store as it is. -/
theorem run_refusal
    {response : Response}
    (config : Config)
    (hasks : Asks move id tenant i)
    (hid : IsSegment id)
    (hstore : ∀ r st, handle (.store r) st = st.serve now r)
    (h : AlertTask.ofInquiry (move.page id) i = .error response) :
    (answer config i).run handle st = (response, st) :=
  run_page config hasks hid hstore (by rw [AlertPage.answer, h, run_done])

/-- The task that the page understands is carried out. -/
theorem run_task
    {task : AlertTask} {o : Outcome Response} {st' : Store}
    (config : Config)
    (hasks : Asks move id tenant i)
    (hid : IsSegment id)
    (hstore : ∀ r st, handle (.store r) st = st.serve now r)
    (htask : AlertTask.ofInquiry (move.page id) i = .ok (tenant, task))
    (hrun : (ExceptT.run (task.carryOut tenant)).run (fun r st => st.serve now r) st = (o, st')) :
    (answer config i).run handle st = (sent o, st') := by
  refine run_page config hasks hid hstore ?_
  rw [AlertPage.answer, htask]
  change (Program.bind _ _).run _ st = _
  rw [run_bind, hrun]
  cases o <;> rfl

/-- The answer of the page, and what becomes of the store. -/
theorem reports_answer
    {task : AlertTask} {t : String}
    (config : Config)
    (h : st.Sound used)
    (hasks : Asks move id tenant i)
    (hid : IsSegment id)
    (hstore : ∀ r st, handle (.store r) st = st.serve now r)
    (htask : AlertTask.ofInquiry (move.page id) i = .ok (t, task)) :
    Reports move id tenant st ((answer config i).run handle st) := by
  obtain ⟨rfl, r, c, hattempts⟩ := exists_attempts hasks.tenant htask now
  rcases h.serve_change hattempts.asks with
    ⟨a, ha, ⟨haid, hatenant, hmay⟩, htells, hputs⟩ | ⟨hsame, ⟨htells, hnone⟩ | ⟨hlong, e, he⟩⟩
  · rw [run_task config hasks hid hstore htask (hattempts.done _ htells)]
    have hnew : (⟨now, r, []⟩ : Turn).created? = none := by
      have hchange := hattempts.asks
      cases r <;> first | rfl | cases hchange
    rw [Store.snd_serve]
    refine .moved ha (haid.trans hattempts.target.1) (hatenant.trans hattempts.target.2)
      (by rwa [← hattempts.may]) (c.origin_apply a) (hattempts.status a) hnew fun d => ?_
    rw [← Store.snd_serve, hputs.holds, ha.reading_apply hattempts.legible, c.id_apply, haid,
      hattempts.target.1, Except.ok.injEq, eq_comm (a := c.apply a)]
  · have hrun := hattempts.refused (fun r st => Store.serve now st r) htells
    rw [hsame] at hrun
    have hunmoved (a : Alert) (ha : st.Holds a) (haid : a.id = id) (hatenant : a.tenant = t) :
        move.may a.status = false := by
      rw [← hattempts.may]
      exact hnone a ha (haid.trans hattempts.target.1.symm)
        (hatenant.trans hattempts.target.2.symm)
    obtain ⟨o, hrefused, hreports⟩ := reports_refused move now h hunmoved
    rw [run_task config hasks hid hstore htask (hrun.trans hrefused)]
    exact hreports
  · have hrun := hattempts.failed (fun r st => Store.serve now st r) he
    rw [hsame] at hrun
    rw [run_task config hasks hid hstore htask hrun]
    refine .unread ?_ (by simp [sent, Response.failed])
    rwa [hattempts.target.1] at hlong

end

theorem status_done
    (move : Move) (id : String) :
    (move.done id).status = 200 := by
  cases move <;> rfl

/-- The answer says what became of the alert, if it can be read. -/
theorem Reports.tells
    {x : Response × Store}
    (h : Reports move id tenant st x)
    (hsound : st.Sound used)
    (hreads : st.Reads (·.id = id)) :
    (x.1.status = 200 ↔
      ∃ a, st.Holds a ∧ a.id = id ∧ a.tenant = tenant ∧ move.may a.status = true) ∧
    (x.1.status = 404 ↔ ∀ a, st.Holds a → a.id = id → a.tenant ≠ tenant) ∧
    x.1.status ∈ [200, 404, 409] ∧
    (x.1.status = 200 → ∃ a b, st.Holds a ∧ a.id = id ∧ b.origin = a.origin ∧
      b.status = move.target ∧ ∀ d, x.2.Holds d ↔ if d.id = id then d = b else st.Holds d) ∧
    (x.1.status ≠ 200 → x.2 = st) := by
  cases h with
  | @moved a b t ha hid htenant hmay hsame hstatus hnew hafter =>
      have hdone := status_done move id
      refine ⟨⟨fun _ => ⟨a, ha, hid, htenant, hmay⟩, fun _ => hdone⟩,
        ⟨fun h => ?_, fun hnone => absurd htenant (hnone a ha hid)⟩, by simp [hdone],
        fun _ => ⟨a, b, ha, hid, hsame, hstatus, hafter⟩, fun hother => absurd hdone hother⟩
      rw [hdone] at h
      cases h
  | unknown hnone =>
      refine ⟨⟨fun h => (by cases h), fun hmoved => ?_⟩,
        ⟨fun _ => hnone, fun _ => rfl⟩, by simp [AlertTask.notFound, Response.saying],
        fun h => (by cases h), fun _ => rfl⟩
      obtain ⟨a, ha, hid, htenant, -⟩ := hmoved
      exact absurd htenant (hnone a ha hid)
  | @refused a ha hid htenant hmay =>
      refine ⟨⟨fun h => (by cases h), fun hmoved => ?_⟩,
        ⟨fun h => (by cases h), fun hnone => absurd htenant (hnone a ha hid)⟩,
        by simp [Response.saying], fun h => (by cases h), fun _ => rfl⟩
      obtain ⟨d, hd, hdid, -, hdmay⟩ := hmoved
      rw [Store.Holds.eq_of_id hsound hd ha (hdid.trans hid.symm), hmay] at hdmay
      cases hdmay
  | unread hlong =>
      exact absurd hreads hlong

/-- An alert that was moved on cannot be moved on in this way any more. -/
theorem Reports.exists_after
    {x : Response × Store} {start : Store} {turns later : List Turn}
    (h : Reports move id tenant (start.after turns) x)
    (hstart : start.IsNew)
    (hstatus : x.1.status = 200)
    (hids : (Store.createdIds (turns ++ later)).Nodup) :
    ∃ used, (x.2.after later).Sound used ∧
      (x.2.after later).Keeps fun a => a.id = id → move.may a.status = false := by
  cases h with
  | @moved a b t ha hid htenant hmay hsame hmoved hnew hafter =>
      have hbid : b.id = id := (Alert.origin_eq_iff.mp hsame).1.trans hid
      have hb : ((start.after turns).after [t]).Holds b := (hafter b).mpr (by rw [if_pos hbid])
      have hkeeps : ((start.after turns).after [t]).Keeps fun _ => True :=
        ((hstart.keeps.after turns fun _ _ _ _ => trivial).turn t).mono fun _ _ => trivial
      have hnone : Store.createdIds [t] = [] := by
        rw [Store.createdIds, List.filterMap_cons_none hnew]
        rfl
      have hcreated : Store.createdIds (turns ++ [t]) = Store.createdIds turns := by
        rw [Store.createdIds_append, hnone, List.append_nil]
      rw [Store.createdIds_append] at hids
      have hsound := hstart.sound_after (List.nodup_append.mp hids).1
      rw [← hcreated, ← Store.createdIds_append] at hids
      have hstays : (((start.after turns).after [t]).Keeps
          fun d => d.id = id → move.may d.status = false) := by
        refine (hkeeps.of_status hb).mono fun d hd hdid => ?_
        rw [hd (hdid.trans hbid.symm), hmoved]
        exact move.may_target
      refine ⟨Store.createdIds (turns ++ [t] ++ later), ?_, hstays.stays move fun hmem => ?_⟩
      · rw [← Store.after_append, ← Store.after_append, ← List.append_assoc]
        exact hstart.sound_after hids
      · rw [Store.createdIds_append, hcreated] at hids
        exact (List.nodup_append.mp hids).2.2 _ (hid ▸ hsound.id_mem ha) _ hmem rfl
  | unknown | refused =>
      cases hstatus
  | unread hlong hother =>
      exact absurd hstatus hother

theorem Reports.exists_of_status
    {x : Response × Store}
    (h : Reports move id tenant st x)
    (hstatus : x.1.status = 200) :
    ∃ a, st.Holds a ∧ a.id = id ∧ move.may a.status = true := by
  cases h with
  | moved ha hid _ hmay =>
      exact ⟨_, ha, hid, hmay⟩
  | unknown | refused =>
      cases hstatus
  | unread hlong hother =>
      exact absurd hstatus hother

/-- **The answer says what became of the alert.** After every run that gives no id to two new
alerts, on both kinds of store, and whichever commands of the run fail on a key server: if the
alert can be read that is stored under an id, and the page understands what it is sent, it
answers 200 just if the tenant has an alert with this id that can be moved on, 404 just if the
tenant has no alert with this id, and 409 otherwise. With 200 this alert and no other was moved
on; with any other answer the store is left as it was. Once the answer was 200 it never is again,
whatever is asked of the store in between. -/
theorem moves_reported
    {start : Store} {turns : List Turn} {handle : (c : Call) → Store → c.Reply × Store}
    (config : Config) (move : Move)
    (hstart : start.IsNew)
    (hids : (Store.createdIds turns).Nodup)
    (hreads : (start.after turns).Reads (·.id = id))
    (hasks : Asks move id tenant i)
    (hid : IsSegment id)
    (hstore : ∀ r st, handle (.store r) st = st.serve now r) :
    let st := start.after turns
    let x := (answer config i).run handle st
    (i.body = [] → ∃ task, AlertTask.ofInquiry (move.page id) i = .ok task) ∧
    (∀ response, AlertTask.ofInquiry (move.page id) i = .error response →
      x = (response, st) ∧ response.status ∈ [400, 422, 500]) ∧
    ∀ task, AlertTask.ofInquiry (move.page id) i = .ok task →
      (x.1.status = 200 ↔
        ∃ a, st.Holds a ∧ a.id = id ∧ a.tenant = tenant ∧ move.may a.status = true) ∧
      (x.1.status = 404 ↔ ∀ a, st.Holds a → a.id = id → a.tenant ≠ tenant) ∧
      x.1.status ∈ [200, 404, 409] ∧
      (x.1.status = 200 → ∃ a b, st.Holds a ∧ a.id = id ∧ b.origin = a.origin ∧
        b.status = move.target ∧ ∀ d, x.2.Holds d ↔ if d.id = id then d = b else st.Holds d) ∧
      (x.1.status ≠ 200 → x.2 = st) ∧
      (x.1.status = 200 →
        ∀ later, (Store.createdIds (turns ++ later)).Nodup →
          ∀ config' now' i' tenant' (handle' : (c : Call) → Store → c.Reply × Store),
            Asks move id tenant' i' → (∀ r st, handle' (.store r) st = st.serve now' r) →
              ((answer config' i').run handle' (x.2.after later)).1.status ≠ 200) := by
  intro st x
  have hsound : st.Sound (Store.createdIds turns) := hstart.sound_after hids
  refine ⟨exists_task move id hasks.tenant, fun response hrefused => ?_, fun task htask => ?_⟩
  · exact ⟨run_refusal config hasks hid hstore hrefused, status_of_refusal hrefused⟩
  · have hreports : Reports move id tenant st x :=
      reports_answer config hsound hasks hid hstore htask
    obtain ⟨hdone, hmissing, hstatus, hmoved, hsame⟩ := hreports.tells hsound hreads
    refine ⟨hdone, hmissing, hstatus, hmoved, hsame, ?_⟩
    intro hfirst later hlater config' now' i' tenant' handle' hasks' hstore' hsecond
    obtain ⟨used, hsound', hkeeps⟩ := hreports.exists_after hstart hfirst hlater
    cases htask' : AlertTask.ofInquiry (move.page id) i' with
    | error response =>
        have hstatus' := status_of_refusal htask'
        rw [run_refusal config' hasks' hid hstore' htask'] at hsecond
        have hsecond : response.status = 200 := hsecond
        rw [hsecond] at hstatus'
        exact absurd hstatus' (by decide)
    | ok task' =>
        have hreports' := reports_answer config' hsound' hasks' hid hstore' htask'
        obtain ⟨a, ha, haid, hmay⟩ := hreports'.exists_of_status hsecond
        rw [hkeeps.holds (fun b hb => hb) ha haid] at hmay
        cases hmay

/-- A store behind the service, and nothing else. -/
def onlyStore (now : Moment) : (c : Call) → Store → c.Reply × Store
  | .store r, st => st.serve now r
  | .isScheduled, st => (false, st)
  | .stats, st => ({}, st)
  | .telemetryHealth _, st => (.ok false, st)
  | .runNow, st => (.ok (), st)

/-- An operator takes notice of the alert of the first run. -/
def firstNotice : Inquiry :=
  { method := "POST"
    path := "/api/alert/a1/acknowledge"
    headers := [("X-Tenant-Id", "tenant-a")] }

theorem asks_firstNotice :
    Asks .acknowledge "a1" "tenant-a" firstNotice :=
  ⟨rfl, by decide, by decide⟩

theorem isSegment_a1 :
    IsSegment "a1" :=
  ⟨by decide, by decide⟩

theorem moves_reported_firstRun :
    Store.IsNew (.server {}) ∧ (Store.createdIds firstRun).Nodup ∧
      ((Store.server {}).after firstRun).Reads (·.id = "a1") ∧
      Asks .acknowledge "a1" "tenant-a" firstNotice ∧ IsSegment "a1" ∧
      (∀ r st, onlyStore firstNoon (.store r) st = st.serve firstNoon r) ∧
      ∃ response st', (answer {} firstNotice).run (onlyStore firstNoon)
          ((Store.server {}).after firstRun) = (response, st') ∧
        response.status = 200 ∧
          ((answer {} firstNotice).run (onlyStore firstNoon) st').1.status ≠ 200 := by
  have hreads : ((Store.server {}).after firstRun).Reads (·.id = "a1") := Store.reads_firstRun _
  have hstore (r : Request) (st : Store) :
      onlyStore firstNoon (.store r) st = st.serve firstNoon r :=
    rfl
  obtain ⟨hunderstood, -, hreported⟩ := moves_reported {} .acknowledge .server (by decide) hreads
    asks_firstNotice isSegment_a1 hstore
  obtain ⟨task, htask⟩ := hunderstood rfl
  obtain ⟨hdone, -, -, -, -, hagain⟩ := hreported task htask
  have hstatus := hdone.mpr ⟨_, Store.holds_firstRun, rfl, rfl, rfl⟩
  refine ⟨.server, by decide, hreads, asks_firstNotice, isSegment_a1, fun _ _ => rfl, _, _, rfl,
    hstatus, ?_⟩
  have hsecond := hagain hstatus [] (by decide) {} firstNoon firstNotice "tenant-a"
    (onlyStore firstNoon) asks_firstNotice fun _ _ => rfl
  rwa [Store.after_nil] at hsecond

/-- The page fails on an alert on a key server that could be moved on, but not be read. -/
theorem status_of_long
    {s : Server} {a : Alert} {handle : (c : Call) → Store → c.Reply × Store}
    (config : Config)
    (h : (Store.server s).Sound used)
    (ha : Indexed.Stored s a)
    (hmay : move.may a.status = true)
    (hlong : a.isLegible = false)
    (hasks : Asks move a.id a.tenant i)
    (hid : IsSegment a.id)
    (hstore : ∀ r st, handle (.store r) st = st.serve now r)
    (hbody : i.body = []) :
    ((answer config i).run handle (.server s)).1.status = 500 := by
  obtain ⟨⟨t, task⟩, htask⟩ := exists_task move a.id hasks.tenant hbody
  obtain ⟨rfl, r, c, hattempts⟩ := exists_attempts hasks.tenant htask now
  have hkept : Indexed.Kept s := Indexed.Filed.toKept h
  rcases hkept.run_change hattempts.asks with
    ⟨b, o, s', hb, ⟨hbid, -, -⟩, hlegible, -⟩ | ⟨o, hnone, -⟩ | ⟨-, e, hrun⟩
  · have hsame := ha
    rw [Indexed.Stored, ← hattempts.target.1, ← hbid, hb] at hsame
    have htext := Entry.text.inj (Option.some.inj hsame)
    rw [Alert.isLegible_of_storedText htext.symm hlegible] at hlong
    cases hlong
  · have hunmoved := hnone a ha hattempts.target.1.symm hattempts.target.2.symm
    rw [hattempts.may, hmay] at hunmoved
    cases hunmoved
  · have hfailed := hattempts.failed (fun r st => Store.serve now st r) (s := .server s)
      (congrArg Prod.fst hrun)
    rw [run_task config hasks hid hstore htask hfailed]
    rfl

/-- On a key server the answer is 500 if the alert has a number that is too long. -/
theorem not_moves_reported_oneMoreRun :
    ¬ ∀ (start : Store) (turns : List Turn) (move : Move) (id tenant : String) (i : Inquiry)
        (now : Moment),
      start.IsNew → (Store.createdIds turns).Nodup → Asks move id tenant i → IsSegment id →
        i.body = [] →
          ((answer {} i).run (onlyStore now) (start.after turns)).1.status ∈ [200, 404, 409] := by
  intro hall
  obtain ⟨count, s, a, hafter, hstored, ⟨hid, htenant, hactive⟩, hlong⟩ :=
    Store.exists_long_oneMoreRun
  have hstatus := hall (.server {}) (Store.oneMoreRun count) .acknowledge "a1" "tenant-a"
    firstNotice firstNoon .server (Store.nodup_oneMoreRun count) asks_firstNotice isSegment_a1 rfl
  have hsound := Store.IsNew.server.sound_after (Store.nodup_oneMoreRun count)
  rw [hafter] at hstatus hsound
  have hasks := asks_firstNotice
  have hsegment := isSegment_a1
  rw [← hid, ← htenant] at hasks
  rw [← hid] at hsegment
  rw [status_of_long {} hsound hstored (by rw [hactive]; rfl) hlong hasks hsegment
    (fun _ _ => rfl) rfl] at hstatus
  exact absurd hstatus (by decide)

end Service
end TelemetryAlerts
