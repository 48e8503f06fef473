import TelemetryAlerts.Proofs.Evaluation.Lifecycle
import TelemetryAlerts.Proofs.Store.Keeping
import TelemetryAlerts.Service.Answer

/-!
# What a tenant sees and does through the service

An inquiry to a page about alerts is on behalf of one tenant, and every request that it makes
to the store names that tenant. What the store in memory replies to such a request is found
among the tenant's own alerts, and nothing else is changed. So two stores that hold the same
alerts of the tenant cannot be told apart through the service, whatever else they hold.

**Results.**
* `Memory.serve_confined`: a request of a tenant looks at the tenant's alerts only, and leaves
  the alerts of all others as they are.
* `Memory.run_confined`: so does a program of such requests.
* `Service.answer_confined`: stores that agree on a tenant answer alike, and go on to agree.
-/

namespace TelemetryAlerts

/-- Whether a request is made on behalf of a tenant and is about stored alerts of the tenant
only. A new alert is not: it is refused because of any open alert of its rule and device. Nor
is the latest alert of a rule and a device. -/
def Request.IsOf (tenant : String) : Request → Prop
  | .create _ => False
  | .latestOf _ _ => False
  | .get _ t => t = tenant
  | .openOn t _ => t = tenant
  | .acknowledge _ t _ _ => t = tenant
  | .resolve _ t _ => t = tenant
  | .recordNotifications _ t _ => t = tenant
  | .markEscalated _ t _ => t = tenant
  | .list t _ _ => t = tenant
  | .ofRule t _ _ => t = tenant
  | .statistics t => t = tenant

/-- Whether every call that a program can make has a property. -/
def Program.Only {ι α : Type} {ρ : ι → Type} (P : ι → Prop) : Program ι ρ α → Prop
  | done _ => True
  | call i next => P i ∧ ∀ r, (next r).Only P

theorem Program.Only.bind
    {ι α β : Type} {ρ : ι → Type} {P : ι → Prop} {p : Program ι ρ α} {f : α → Program ι ρ β}
    (hp : p.Only P)
    (hf : ∀ x, (f x).Only P) :
    (p.bind f).Only P := by
  induction p with
  | done x =>
      exact hf x
  | call i next ih =>
      exact ⟨hp.1, fun r => ih r (hp.2 r)⟩

namespace Memory

variable {m m' : Memory} {t : String}

/-- The alerts of a tenant, in their order. -/
def own (m : Memory) (t : String) : List Alert :=
  m.alerts.filter fun a => a.tenant == t

/-- The alerts of all tenants but one, in their order. -/
def others (m : Memory) (t : String) : List Alert :=
  m.alerts.filter fun a => a.tenant != t

/-- The store without the alerts of all others. -/
def alone (m : Memory) (t : String) : Memory :=
  ⟨m.own t⟩

theorem own_alone :
    (m.alone t).own t = m.own t := by
  simp [alone, own]

theorem nodup_alone
    (hids : (m.alerts.map Alert.id).Nodup) :
    ((m.alone t).alerts.map Alert.id).Nodup :=
  hids.sublist (List.filter_sublist.map Alert.id)

theorem find?_eq_alone
    (hids : (m.alerts.map Alert.id).Nodup)
    (id : String) :
    m.find? id t = (m.alone t).find? id t := by
  refine Option.ext fun a => ?_
  rw [find?_eq_some hids, find?_eq_some (nodup_alone hids)]
  simp only [alone, own, List.mem_filter, beq_iff_eq]
  constructor
  · rintro ⟨ha, hid, htenant⟩
    exact ⟨⟨ha, htenant⟩, hid, htenant⟩
  · rintro ⟨⟨ha, -⟩, hid, htenant⟩
    exact ⟨ha, hid, htenant⟩

theorem ofTenant_eq_own
    (keep : Alert → Bool) :
    m.ofTenant t keep = (m.own t).filter keep := by
  rw [ofTenant, own, List.filter_filter]
  exact List.filter_congr fun a _ => Bool.and_comm _ _

/-- Changing an alert of a tenant changes the tenant's alerts as it would if there were no
others. -/
theorem alone_update
    (hids : (m.alerts.map Alert.id).Nodup)
    (c : Change) :
    (m.update c.id c.tenant c.may c.apply).1 =
        ((m.alone c.tenant).update c.id c.tenant c.may c.apply).1 ∧
      (m.update c.id c.tenant c.may c.apply).2.alone c.tenant =
        ((m.alone c.tenant).update c.id c.tenant c.may c.apply).2 ∧
      (m.update c.id c.tenant c.may c.apply).2.others c.tenant = m.others c.tenant := by
  unfold update
  rw [find?_eq_alone hids]
  cases hfind : (m.alone c.tenant).find? c.id c.tenant with
  | none =>
      exact ⟨rfl, rfl, rfl⟩
  | some a =>
      rw [← find?_eq_alone hids] at hfind
      obtain ⟨ha, -, htenant⟩ := (find?_eq_some hids).mp hfind
      dsimp only
      split_ifs
      · have hput (mine : String → Bool) :
            (put (c.apply a) m.alerts).filter (fun b => mine b.tenant) =
              if mine a.tenant then put (c.apply a) (m.alerts.filter fun b => mine b.tenant)
              else m.alerts.filter fun b => mine b.tenant :=
          filter_put hids ha (c.id_apply a) (congrArg mine (c.tenant_apply a))
        refine ⟨rfl, congrArg Memory.mk ?_, ?_⟩
        · exact (hput (· == c.tenant)).trans (if_pos (by simpa using htenant))
        · exact (hput (· != c.tenant)).trans (if_neg (by simp [htenant]))
      · exact ⟨rfl, rfl, rfl⟩

/-- What is replied to a request of a tenant, and what becomes of the tenant's alerts, is as if
there were no others; and the others are left as they are. -/
theorem serve_confined
    (hids : (m.alerts.map Alert.id).Nodup)
    (now : Moment)
    {r : Request}
    (hr : r.IsOf t) :
    (m.serve now r).1 = ((m.alone t).serve now r).1 ∧
      (m.serve now r).2.alone t = ((m.alone t).serve now r).2 ∧
      (m.serve now r).2.others t = m.others t := by
  have hlisted (keep : Alert → Bool) : m.ofTenant t keep = (m.alone t).ofTenant t keep := by
    rw [ofTenant_eq_own, ofTenant_eq_own, own_alone]
  cases r with
  | create | latestOf =>
      exact hr.elim
  | get id _ =>
      cases hr
      exact ⟨congrArg Except.ok (find?_eq_alone hids id), rfl, rfl⟩
  | openOn _ device =>
      cases hr
      exact ⟨congrArg newestFirst (hlisted _), rfl, rfl⟩
  | acknowledge id _ who? notes? =>
      cases hr
      exact (alone_update hids (.acknowledge now id t who? notes?)).imp_left (congrArg Except.ok)
  | resolve id _ reason? =>
      cases hr
      exact (alone_update hids (.resolve now id t reason?)).imp_left (congrArg Except.ok)
  | recordNotifications id _ count =>
      cases hr
      exact (alone_update hids (.recordNotifications now id t count)).imp_left fun _ => rfl
  | markEscalated id _ at_ =>
      cases hr
      exact (alone_update hids (.markEscalated id t at_)).imp_left fun _ => rfl
  | list _ filter limit =>
      cases hr
      exact ⟨congrArg (fun l => (newestFirst l).map (upTo limit)) (hlisted _), rfl, rfl⟩
  | ofRule _ rule limit =>
      cases hr
      exact ⟨congrArg (fun l => (newestFirst l).map (upTo limit)) (hlisted _), rfl, rfl⟩
  | statistics =>
      cases hr
      exact ⟨congrArg (fun l => Except.ok (Statistics.ofAlerts l)) (hlisted _), rfl, rfl⟩

/-- Serving a request keeps the ids different. -/
theorem nodup_serve
    (hids : (m.alerts.map Alert.id).Nodup)
    (now : Moment) (r : Request) :
    ((m.serve now r).2.alerts.map Alert.id).Nodup := by
  have hevolves := evolves hids now r
  revert hevolves
  generalize (m.serve now r).2.alerts = alerts
  rintro (_ | _ | _)
  · exact hids
  · exact nodup_put hids
  · exact nodup_put hids

/-- A program whose requests are all of a tenant ends as if the store held no other alerts, and
leaves the others as they are. -/
theorem run_confined
    {α : Type} {p : Program Request (fun r => Outcome r.Reply) α}
    (hp : p.Only (·.IsOf t))
    (hids : (m.alerts.map Alert.id).Nodup)
    (now : Moment) :
    (p.run (fun r m => m.serve now r) m).1 = (p.run (fun r m => m.serve now r) (m.alone t)).1 ∧
      (p.run (fun r m => m.serve now r) m).2.alone t =
        (p.run (fun r m => m.serve now r) (m.alone t)).2 ∧
      (p.run (fun r m => m.serve now r) m).2.others t = m.others t := by
  induction p generalizing m with
  | done x =>
      exact ⟨rfl, rfl, rfl⟩
  | call r next ih =>
      obtain ⟨hreply, hown, hothers⟩ := serve_confined hids now hp.1
      obtain ⟨hresult, hown', hothers'⟩ := ih (m.serve now r).1 (hp.2 _) (nodup_serve hids now r)
      rw [hreply] at hresult hown' hothers'
      rw [hown] at hresult hown'
      simp only [Program.run, hreply]
      exact ⟨hresult, hown', hothers'.trans hothers⟩

end Memory

namespace Service

open Program

variable {t : String}

/-! ### The requests of an inquiry -/

/-- An inquiry that names a tenant is read into a task for that tenant. -/
theorem tenant_ofInquiry
    {p : AlertPage} {i : Inquiry} {tenant : String} {task : AlertTask}
    (htenant : i.header? "x-tenant-id" = some t)
    (h : AlertTask.ofInquiry p i = .ok (tenant, task)) :
    tenant = t := by
  have hread : i.tenant = .ok t := by
    rw [Inquiry.tenant, htenant]
    rfl
  have hforTenant {read : Checked AlertTask} (h : i.forTenant read = .ok (tenant, task)) :
      tenant = t := by
    rw [Inquiry.forTenant, hread] at h
    cases read with
    | ok task =>
        cases h
        rfl
    | bad complaints =>
        cases h
  have hwithRemark {α : Type} {default : α} {check : Entries Json → Checked α}
      {toTask : α → AlertTask} (h : i.withRemark default check toTask = .ok (tenant, task)) :
      tenant = t := by
    obtain ⟨v, -, h⟩ := bind_eq_ok.mp h
    obtain ⟨remark, -, h⟩ := bind_eq_ok.mp h
    exact hforTenant h
  cases p with
  | acknowledge | resolve =>
      exact hwithRemark h
  | list | statistics | openOn | ofRule | one =>
      exact hforTenant h

/-- A task for a tenant makes requests of the tenant only. -/
theorem only_carryOut
    (task : AlertTask) :
    Only (·.IsOf t) (ExceptT.run (task.carryOut t)) := by
  have hrefused (id reason : String) :
      Only (·.IsOf t) (ExceptT.run (AlertTask.refused id t reason)) := by
    refine ⟨rfl, fun o => ?_⟩
    rcases o with e | _ | a <;> trivial
  cases task with
  | list | statistics | openOn | ofRule =>
      refine ⟨rfl, fun o => ?_⟩
      rcases o with e | x <;> trivial
  | one id =>
      refine ⟨rfl, fun o => ?_⟩
      rcases o with e | _ | a <;> trivial
  | acknowledge id a =>
      refine ⟨rfl, fun o => ?_⟩
      rcases o with e | _ | _
      · trivial
      · exact hrefused id "is not active"
      · trivial
  | resolve id r =>
      refine ⟨rfl, fun o => ?_⟩
      rcases o with e | _ | _
      · trivial
      · exact hrefused id "is already resolved"
      · trivial

/-- Every request of an inquiry about alerts is of the tenant that the inquiry names. -/
theorem only_answer
    {i : Inquiry}
    (p : AlertPage)
    (htenant : i.header? "x-tenant-id" = some t) :
    (p.answer i).Only (·.IsOf t) := by
  unfold AlertPage.answer
  cases hread : AlertTask.ofInquiry p i with
  | error response =>
      trivial
  | ok request =>
      obtain ⟨tenant, task⟩ := request
      cases tenant_ofInquiry htenant hread
      refine (only_carryOut task).bind fun o => ?_
      cases o <;> trivial

/-! ### The whole service -/

/-- What the service asks for a page about alerts, it asks of the store behind it. -/
theorem run_interpret
    {σ α : Type} {handle : (c : Call) → σ → c.Reply × σ}
    (p : Program Request (fun r => Outcome r.Reply) α)
    (s : σ) :
    (p.interpret fun r => ask (.store r)).run handle s =
      p.run (fun r s => handle (.store r) s) s := by
  induction p generalizing s with
  | done x =>
      rfl
  | call r next ih =>
      exact ih _ _

/-- What the service answers to an inquiry about alerts, and what becomes of the store. -/
theorem run_answer
    {σ : Type} {handle : (c : Call) → σ → c.Reply × σ}
    {serve : (r : Request) → σ → Outcome r.Reply × σ} {i : Inquiry} {p : AlertPage}
    (config : Config)
    (hplace : Place.find i.method i.path = .page (.alerts p))
    (hstore : ∀ r s, handle (.store r) s = serve r s)
    (s : σ) :
    (answer config i).run handle s =
      (fun x => (if i.method = "HEAD" then x.1.withoutContent else x.1, x.2))
        ((p.answer i).run serve s) := by
  have hpage : (Place.find i.method i.path).answer config i =
      (p.answer i).interpret fun r => ask (.store r) := by
    rw [hplace]
    rfl
  have hrun : ((Place.find i.method i.path).answer config i).run handle s =
      (p.answer i).run serve s := by
    rw [hpage, run_interpret]
    simp only [hstore]
  change (Program.bind ((Place.find i.method i.path).answer config i) _).run handle s = _
  rw [run_bind, hrun]
  rfl

variable {m m' : Memory} {now : Moment} {i : Inquiry} {p : AlertPage}
  {handle handle' : (c : Call) → Memory → c.Reply × Memory}

/-- An inquiry about alerts on behalf of a tenant is answered as if there were no other
alerts, and leaves those of others as they are. -/
theorem run_answer_alone
    (config : Config)
    (hplace : Place.find i.method i.path = .page (.alerts p))
    (htenant : i.header? "x-tenant-id" = some t)
    (hstore : ∀ r m, handle (.store r) m = m.serve now r)
    (hstore' : ∀ r m, handle' (.store r) m = m.serve now r)
    (hids : (m.alerts.map Alert.id).Nodup) :
    ((answer config i).run handle m).1 = ((answer config i).run handle' (m.alone t)).1 ∧
      ((answer config i).run handle m).2.alone t =
        ((answer config i).run handle' (m.alone t)).2 ∧
      ((answer config i).run handle m).2.others t = m.others t := by
  obtain ⟨hresult, hown, hothers⟩ := Memory.run_confined (only_answer p htenant) hids now
  rw [run_answer config hplace hstore, run_answer config hplace hstore']
  exact ⟨by simp only [hresult], hown, hothers⟩

/-- Whatever alerts of other tenants two stores hold, if they hold the same alerts of a tenant
in the same order, an inquiry about alerts on behalf of this tenant is answered alike; the
stores agree on the tenant's alerts afterwards, and hold the alerts of all others as before.
So it makes no difference whether there are alerts of others at all. What else stands behind
the service is left open. -/
theorem answer_confined
    (config : Config)
    (hplace : Place.find i.method i.path = .page (.alerts p))
    (htenant : i.header? "x-tenant-id" = some t)
    (hstore : ∀ r m, handle (.store r) m = m.serve now r)
    (hstore' : ∀ r m, handle' (.store r) m = m.serve now r)
    (hids : (m.alerts.map Alert.id).Nodup)
    (hids' : (m'.alerts.map Alert.id).Nodup)
    (hsame : m.own t = m'.own t) :
    ((answer config i).run handle m).1 = ((answer config i).run handle' m').1 ∧
      ((answer config i).run handle m).2.own t = ((answer config i).run handle' m').2.own t ∧
      ((answer config i).run handle m).2.others t = m.others t ∧
      ((answer config i).run handle' m').2.others t = m'.others t ∧
      ((answer config i).run handle m).1 = ((answer config i).run handle' (m.alone t)).1 := by
  have halone := run_answer_alone config hplace htenant hstore hstore' hids
  have halone' := run_answer_alone config hplace htenant hstore' hstore' hids'
  have heq : m'.alone t = m.alone t := congrArg Memory.mk hsame.symm
  rw [heq] at halone'
  refine ⟨halone.1.trans halone'.1.symm, ?_, halone.2.2, halone'.2.2, halone.1⟩
  exact congrArg Memory.alerts (halone.2.1.trans halone'.2.1.symm)

theorem answer_confined_unseen :
    let seen := Alert.raised "a1" "tenant-a" "rule-1" "dev-1" .epoch
    let unseen := Alert.raised "b" "tenant-b" "rule-1" "dev-2" .epoch
    let inquiry : Inquiry :=
      { method := "GET", path := "/api/alert/b", headers := [("X-Tenant-Id", "tenant-a")] }
    let handle : (c : Call) → Memory → c.Reply × Memory
      | .store r, m => m.serve .epoch r
      | .isScheduled, m => (false, m)
      | .stats, m => ({}, m)
      | .telemetryHealth _, m => (.ok false, m)
      | .runNow, m => (.ok (), m)
    Place.find inquiry.method inquiry.path = .page (.alerts (.one "b")) ∧
      inquiry.header? "x-tenant-id" = some "tenant-a" ∧
      (⟨[seen, unseen]⟩ : Memory).own "tenant-a" = (⟨[seen]⟩ : Memory).own "tenant-a" ∧
      ((answer {} inquiry).run handle ⟨[seen, unseen]⟩).1 =
        ((answer {} inquiry).run handle ⟨[seen]⟩).1 := by
  intro seen unseen inquiry handle
  have hsegments : "/api/alert/b".splitOn "/" = ["", "api", "alert", "b"] := by
    rw [String.splitOn, if_neg (by decide)]
    repeat
      rw [String.splitOnAux]
      simp +decide only [if_true, if_false]
  have hplace : Place.find inquiry.method inquiry.path = .page (.alerts (.one "b")) := by
    have hpage : Page.ofPath? inquiry.path = some (.alerts (.one "b")) := by
      rw [Page.ofPath?, Page.at?, hsegments]
      rfl
    rw [Place.find, hpage]
    rfl
  have hids : ((⟨[seen, unseen]⟩ : Memory).alerts.map Alert.id).Nodup := by
    decide
  have hids' : ((⟨[seen]⟩ : Memory).alerts.map Alert.id).Nodup := by
    decide
  exact ⟨hplace, rfl, rfl, (answer_confined {} hplace rfl (fun _ _ => rfl) (fun _ _ => rfl) hids
    hids' rfl).1⟩

end Service
end TelemetryAlerts
