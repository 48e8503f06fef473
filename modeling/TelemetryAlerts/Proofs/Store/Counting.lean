import TelemetryAlerts.Proofs.Store.Newest

/-!
# Counts of alerts

The statistics of a tenant count its alerts by status and by severity. They are counted anew
from what a store holds, and so they agree with what it lists. A request changes one alert at
most, so the counts move by one at most: a new alert is counted once more, one that is taken
notice of or ends is counted under another status, and nothing else moves a count.

**Results.**
* `ofStatus_ofAlerts`, `ofSeverity_ofAlerts`: what is counted.
* `Store.counts_change`, `Store.counts_create`: how the counts of a tenant move with one alert.
* `Store.statistics_agree`: the statistics agree with the listings, and move with the requests.
-/

namespace TelemetryAlerts

namespace Statistics

/-- The count of the alerts of a status. -/
def ofStatus (x : Statistics) : Status → Int
  | .active => x.active
  | .acknowledged => x.acknowledged
  | .resolved => x.resolved

/-- The count of the alerts of a severity. -/
def ofSeverity (x : Statistics) : Severity → Int
  | .critical => x.critical
  | .warning => x.warning
  | .info => x.info

/-- Whether counts are others with one alert of a status and a severity more. -/
structure Gains (x : Statistics) (status : Status) (severity : Severity) (y : Statistics) :
    Prop where
  statuses : ∀ s, y.ofStatus s = x.ofStatus s + if s = status then 1 else 0
  severities : ∀ g, y.ofSeverity g = x.ofSeverity g + if g = severity then 1 else 0

/-- Whether counts are others with one alert counted under another status. -/
structure Moves (x : Statistics) (source target : Status) (y : Statistics) : Prop where
  statuses : ∀ s, y.ofStatus s =
    x.ofStatus s + (if s = target then 1 else 0) - if s = source then 1 else 0
  severities : ∀ g, y.ofSeverity g = x.ofSeverity g

variable {x y : Statistics} {alerts : List Alert}

theorem eq_of_counts
    (hstatus : ∀ s, y.ofStatus s = x.ofStatus s)
    (hseverity : ∀ g, y.ofSeverity g = x.ofSeverity g) :
    y = x := by
  cases x
  cases y
  have hactive := hstatus .active
  have hacknowledged := hstatus .acknowledged
  have hresolved := hstatus .resolved
  have hcritical := hseverity .critical
  have hwarning := hseverity .warning
  have hinfo := hseverity .info
  simp_all [ofStatus, ofSeverity]

theorem gains_add
    (x : Statistics) (a : Alert) :
    x.Gains a.status a.severity (x.add a) := by
  constructor
  · intro s
    cases s <;> simp only [add, ofStatus] <;> cases a.status <;> cases a.severity <;> simp
  · intro g
    cases g <;> simp only [add, ofSeverity] <;> cases a.status <;> cases a.severity <;> simp

theorem ofAlerts_concat
    (alerts : List Alert) (a : Alert) :
    ofAlerts (alerts ++ [a]) = (ofAlerts alerts).add a := by
  rw [ofAlerts, List.foldl_concat, ofAlerts]

theorem gains_ofAlerts
    (a : Alert) (alerts : List Alert) :
    (ofAlerts alerts).Gains a.status a.severity (ofAlerts (a :: alerts)) := by
  rw [ofAlerts_perm (List.perm_append_singleton a alerts), ofAlerts_concat]
  exact gains_add _ a

/-- The statistics count the alerts of each status. -/
theorem ofStatus_ofAlerts
    (alerts : List Alert) (s : Status) :
    (ofAlerts alerts).ofStatus s = (alerts.filter fun a => a.status == s).length := by
  induction alerts with
  | nil =>
      cases s <;> rfl
  | cons a alerts ih =>
      rw [(gains_ofAlerts a alerts).statuses, ih]
      by_cases hs : s = a.status
      · simp [hs]
      · simp [hs, Ne.symm hs]

/-- The statistics count the alerts of each severity. -/
theorem ofSeverity_ofAlerts
    (alerts : List Alert) (g : Severity) :
    (ofAlerts alerts).ofSeverity g = (alerts.filter fun a => a.severity == g).length := by
  induction alerts with
  | nil =>
      cases g <;> rfl
  | cons a alerts ih =>
      rw [(gains_ofAlerts a alerts).severities, ih]
      by_cases hg : g = a.severity
      · simp [hg]
      · simp [hg, Ne.symm hg]

theorem eq_of_moves_self
    {s : Status}
    (h : x.Moves s s y) :
    y = x :=
  eq_of_counts (fun s' => by rw [h.statuses, add_sub_cancel_right]) h.severities

/-- Counts move as one of the alerts is exchanged for another one of the same severity. -/
theorem moves_of_perm
    {a d : Alert} {rest others : List Alert}
    (halerts : alerts.Perm (a :: rest))
    (hothers : others.Perm (d :: rest))
    (hseverity : d.severity = a.severity) :
    (ofAlerts alerts).Moves a.status d.status (ofAlerts others) := by
  rw [← ofAlerts_perm halerts, ← ofAlerts_perm hothers]
  have hold := gains_ofAlerts a rest
  have hnew := gains_ofAlerts d rest
  constructor
  · intro s
    rw [hnew.statuses, hold.statuses]
    omega
  · intro g
    rw [hnew.severities, hold.severities, hseverity]

/-- Every alert is counted under one status and one severity. -/
theorem totals_ofAlerts
    (alerts : List Alert) :
    (ofAlerts alerts).active + (ofAlerts alerts).acknowledged + (ofAlerts alerts).resolved =
        alerts.length ∧
      (ofAlerts alerts).critical + (ofAlerts alerts).warning + (ofAlerts alerts).info =
        alerts.length := by
  induction alerts with
  | nil =>
      exact ⟨rfl, rfl⟩
  | cons a alerts ih =>
      obtain ⟨hstatus, hseverity⟩ := gains_ofAlerts a alerts
      have hactive := hstatus .active
      have hacknowledged := hstatus .acknowledged
      have hresolved := hstatus .resolved
      have hcritical := hseverity .critical
      have hwarning := hseverity .warning
      have hinfo := hseverity .info
      simp only [ofStatus, ofSeverity] at *
      rw [List.length_cons]
      constructor
      · cases hs : a.status <;> simp [hs] at hactive hacknowledged hresolved <;> omega
      · cases hg : a.severity <;> simp [hg] at hcritical hwarning hinfo <;> omega

end Statistics

/-- How the counts of a tenant move with a request that is answered. -/
def Request.Shifts (tenant : String) (x y : Statistics) (r : Request) (o : Outcome r.Reply) :
    Prop :=
  match r, o with
  | .create a, .ok _ => if a.tenant = tenant then x.Gains a.status a.severity y else y = x
  | .acknowledge _ t _ _, .ok true =>
    if t = tenant then x.Moves .active .acknowledged y else y = x
  | .resolve _ t _, .ok true =>
    if t = tenant then ∃ s : Status, s.isOpen = true ∧ x.Moves s .resolved y else y = x
  | _, _ => y = x

namespace Store

variable {st st' : Store} {used : List String} {a b d : Alert} {v v' : List Alert}
  {tenant : String}

theorem outline_of_reading
    (h : st.reading b = .ok d) :
    d.outline = b.outline := by
  cases st with
  | memory m =>
      rw [Except.ok.inj h]
  | server s =>
      obtain ⟨-, rfl⟩ := Alert.reading_eq_ok_iff.mp h
      rfl

/-- The alerts of a tenant are the one that was put and those with other ids. -/
theorem Lists.perm_of_puts
    (hv : st.Lists tenant v)
    (hv' : st'.Lists tenant v')
    (hputs : Puts b st st')
    (hread : st.reading b = .ok d)
    (htenant : b.tenant = tenant) :
    v'.Perm (d :: v.filter fun e => e.id != b.id) := by
  have houtline := outline_of_reading hread
  have hid : d.id = b.id := (congrArg Alert.id houtline :)
  have hdtenant : d.tenant = b.tenant := (congrArg Alert.tenant houtline :)
  refine (List.perm_ext_iff_of_nodup hv'.nodup.of_map ?_).mpr fun e => ?_
  · refine List.nodup_cons.mpr ⟨fun hmem => ?_, hv.nodup.of_map.filter _⟩
    simpa [hid] using (List.mem_filter.mp hmem).2
  · rw [hv'.mem, hputs.holds, List.mem_cons, List.mem_filter, hv.mem]
    by_cases he : e.id = b.id
    · simp only [he, if_true, hread, Except.ok.injEq, bne_self_eq_false, and_false, or_false,
        Bool.false_eq_true]
      constructor
      · rintro ⟨rfl, -⟩
        rfl
      · rintro rfl
        exact ⟨rfl, hdtenant.trans htenant⟩
    · have hne : e ≠ d := fun heq => he (heq ▸ hid)
      simp [he, hne]

/-- Putting an alert of another tenant leaves the alerts of a tenant. -/
theorem Lists.perm_of_puts_other
    (hv : st.Lists tenant v)
    (hv' : st'.Lists tenant v')
    (hputs : Puts b st st')
    (htenant : b.tenant ≠ tenant)
    (hold : ∀ e, st.Holds e → e.id = b.id → e.tenant ≠ tenant) :
    v'.Perm v := by
  refine (List.perm_ext_iff_of_nodup hv'.nodup.of_map hv.nodup.of_map).mpr fun e => ?_
  rw [hv'.mem, hputs.holds, hv.mem]
  refine and_congr_left fun hetenant => ?_
  split_ifs with he
  · constructor
    · intro hread
      have houtline := outline_of_reading hread
      exact absurd ((congrArg Alert.tenant houtline :).symm.trans hetenant) htenant
    · intro hheld
      exact absurd hetenant (hold e hheld he)
  · rfl

theorem perm_cons_filter
    (hids : (v.map Alert.id).Nodup)
    (ha : a ∈ v) :
    v.Perm (a :: v.filter fun e => e.id != a.id) := by
  refine (List.perm_ext_iff_of_nodup hids.of_map ?_).mpr fun e => ?_
  · refine List.nodup_cons.mpr ⟨fun hmem => ?_, hids.of_map.filter _⟩
    simpa using (List.mem_filter.mp hmem).2
  · rw [List.mem_cons, List.mem_filter, bne_iff_ne]
    constructor
    · intro he
      by_cases hid : e.id = a.id
      · exact Or.inl (List.inj_on_of_nodup_map hids he ha hid)
      · exact Or.inr ⟨he, hid⟩
    · rintro (rfl | ⟨he, -⟩)
      · exact ha
      · exact he

/-- A new alert is counted for its tenant. -/
theorem counts_create
    (h : st.Sound used)
    (hnew : a.id ∉ used)
    (hv : st.Lists tenant v)
    (hv' : st'.Lists tenant v')
    (hputs : Puts a st st')
    (hreads : st'.Reads (·.tenant = tenant)) :
    if a.tenant = tenant then
      (Statistics.ofAlerts v).Gains a.status a.severity (Statistics.ofAlerts v')
    else Statistics.ofAlerts v' = Statistics.ofAlerts v := by
  have hother (e : Alert) (he : st.Holds e) : e.id ≠ a.id := fun hid =>
    hnew (hid ▸ h.id_mem he)
  split_ifs with htenant
  · obtain ⟨d, hread⟩ := hputs.reads _ hreads htenant
    have houtline := outline_of_reading hread
    have hperm := hv.perm_of_puts hv' hputs hread htenant
    have hall : (v.filter fun e => e.id != a.id) = v := by
      refine List.filter_eq_self.mpr fun e he => ?_
      simpa using hother e ((hv.mem e).mp he).1
    rw [hall] at hperm
    have hgains := Statistics.gains_ofAlerts d v
    rw [show d.status = a.status from (congrArg Alert.status houtline :),
      show d.severity = a.severity from (congrArg Alert.severity houtline :)] at hgains
    rwa [← ofAlerts_perm hperm]
  · exact (ofAlerts_perm (hv.perm_of_puts_other hv' hputs htenant
      fun e he hid => absurd hid (hother e he))).symm

/-- An alert that is changed is counted under its new status. -/
theorem counts_change
    (h : st.Sound used)
    (ha : st.Holds a)
    (hid : b.id = a.id)
    (htenant : b.tenant = a.tenant)
    (hseverity : b.severity = a.severity)
    (hv : st.Lists tenant v)
    (hv' : st'.Lists tenant v')
    (hputs : Puts b st st')
    (hreads : st'.Reads (·.tenant = tenant)) :
    if a.tenant = tenant then
      (Statistics.ofAlerts v).Moves a.status b.status (Statistics.ofAlerts v')
    else Statistics.ofAlerts v' = Statistics.ofAlerts v := by
  split_ifs with hmine
  · obtain ⟨d, hread⟩ := hputs.reads _ hreads (htenant.trans hmine)
    have houtline := outline_of_reading hread
    have hperm' := hv.perm_of_puts hv' hputs hread (htenant.trans hmine)
    have hperm := perm_cons_filter hv.nodup ((hv.mem a).mpr ⟨ha, hmine⟩)
    rw [hid] at hperm'
    have hmoves := Statistics.moves_of_perm hperm hperm'
      (Eq.trans (congrArg Alert.severity houtline :) hseverity)
    rwa [show d.status = b.status from (congrArg Alert.status houtline :)] at hmoves
  · refine (ofAlerts_perm (hv.perm_of_puts_other hv' hputs (htenant ▸ hmine)
      fun e he heid => ?_)).symm
    rw [Holds.eq_of_id h he ha (heid.trans hid)]
    exact hmine

/-- The counts are told by what is held. -/
theorem Lists.ofAlerts_eq
    (hv : st.Lists tenant v)
    (hv' : st.Lists tenant v') :
    Statistics.ofAlerts v' = Statistics.ofAlerts v :=
  ofAlerts_perm ((List.perm_ext_iff_of_nodup hv.nodup.of_map hv'.nodup.of_map).mpr fun e => by
    rw [hv.mem, hv'.mem])

/-- A request for a change that keeps the severity moves one alert of its tenant to another
status, or none. -/
theorem Sound.counts_change
    {now : Moment} {r : Request} {c : Change}
    (h : st.Sound used)
    (hc : r.change? now = some c)
    (hseverity : ∀ a, (c.apply a).severity = a.severity)
    (hv : st.Lists tenant v)
    (hv' : (st.serve now r).2.Lists tenant v')
    (hreads : (st.serve now r).2.Reads (·.tenant = tenant)) :
    (r.Tells true (st.serve now r).1 ∧ ∃ a, c.may a = true ∧
      if c.tenant = tenant then
        (Statistics.ofAlerts v).Moves a.status (c.apply a).status (Statistics.ofAlerts v')
      else Statistics.ofAlerts v' = Statistics.ofAlerts v) ∨
    (r.Tells false (st.serve now r).1 ∨ ∃ e, (st.serve now r).1 = .error e) ∧
      Statistics.ofAlerts v' = Statistics.ofAlerts v := by
  rcases h.serve_change hc with ⟨a, ha, ⟨-, htenant, hmay⟩, htells, hputs⟩ | ⟨hsame, hreply⟩
  · refine Or.inl ⟨htells, a, hmay, ?_⟩
    have hcounts := Store.counts_change h ha (c.id_apply a) (c.tenant_apply a) (hseverity a) hv hv'
      hputs hreads
    rwa [htenant] at hcounts
  · rw [hsame] at hv'
    exact Or.inr ⟨hreply.imp And.left And.right, hv.ofAlerts_eq hv'⟩

/-- A request for a change that keeps the status too moves no count. -/
theorem Sound.counts_same
    {now : Moment} {r : Request} {c : Change}
    (h : st.Sound used)
    (hc : r.change? now = some c)
    (hsame : ∀ a, (c.apply a).severity = a.severity ∧ (c.apply a).status = a.status)
    (hv : st.Lists tenant v)
    (hv' : (st.serve now r).2.Lists tenant v')
    (hreads : (st.serve now r).2.Reads (·.tenant = tenant)) :
    Statistics.ofAlerts v' = Statistics.ofAlerts v := by
  rcases h.counts_change hc (fun a => (hsame a).1) hv hv' hreads with
    ⟨-, a, -, hmoves⟩ | ⟨-, hcounts⟩
  · rw [(hsame a).2] at hmoves
    split_ifs at hmoves
    · exact Statistics.eq_of_moves_self hmoves
    · exact hmoves
  · exact hcounts

/-- The counts of a tenant move as a request tells. -/
theorem Sound.shifts
    {now : Moment} {r : Request}
    (h : st.Sound used)
    (hnew : ∀ a, r = .create a → a.id ∉ used)
    (hv : st.Lists tenant v)
    (hv' : (st.serve now r).2.Lists tenant v')
    (hreads : (st.serve now r).2.Reads (·.tenant = tenant)) :
    r.Shifts tenant (Statistics.ofAlerts v) (Statistics.ofAlerts v') (st.serve now r).1 := by
  cases r with
  | create a =>
      rcases h.serve_create now a with ⟨⟨e, hreply⟩, hsame⟩ | ⟨hreply, hputs⟩
      · rw [hsame] at hv'
        rw [hreply]
        exact hv.ofAlerts_eq hv'
      · rw [hreply]
        exact counts_create h (hnew a rfl) hv hv' hputs hreads
  | acknowledge id t who? notes? =>
      rcases h.counts_change (c := .acknowledge now id t who? notes?) rfl (fun _ => rfl) hv hv'
        hreads with ⟨hreply, a, hmay, hmoves⟩ | ⟨hreply | ⟨e, hreply⟩, hsame⟩
      · rw [hreply]
        have hactive : a.status = .active := eq_of_beq hmay
        rw [hactive] at hmoves
        exact hmoves
      · rw [hreply]
        exact hsame
      · rw [hreply]
        exact hsame
  | resolve id t reason? =>
      rcases h.counts_change (c := .resolve now id t reason?) rfl (fun _ => rfl) hv hv'
        hreads with ⟨hreply, a, hmay, hmoves⟩ | ⟨hreply | ⟨e, hreply⟩, hsame⟩
      · rw [hreply]
        have htold : if t = tenant then
              (Statistics.ofAlerts v).Moves a.status .resolved (Statistics.ofAlerts v')
            else Statistics.ofAlerts v' = Statistics.ofAlerts v := hmoves
        change if t = tenant then _ else _
        split_ifs at htold ⊢ with htenant
        · exact ⟨a.status, hmay, htold⟩
        · exact htold
      · rw [hreply]
        exact hsame
      · rw [hreply]
        exact hsame
  | recordNotifications id t count =>
      exact h.counts_same (c := .recordNotifications now id t count) rfl
        (fun _ => ⟨rfl, rfl⟩) hv hv' hreads
  | markEscalated id t at_ =>
      exact h.counts_same (c := .markEscalated id t at_) rfl
        (fun _ => ⟨rfl, rfl⟩) hv hv' hreads
  | _ =>
      rw [h.serve_read now rfl] at hv'
      exact hv.ofAlerts_eq hv'

/-- Whether counts are the statistics of a tenant, and agree with a list of its alerts and with
what is listed. -/
structure Agrees (st : Store) (tenant : String) (v : List Alert) (x : Statistics) : Prop where
  reply : ∀ now, st.serve now (.statistics tenant) = (.ok x, st)
  statuses : x.active + x.acknowledged + x.resolved = v.length
  severities : x.critical + x.warning + x.info = v.length
  listedByStatus : comparable (v.map Alert.triggeredAt) = true →
    ∀ now status (n : Nat), x.ofStatus status ≤ n → ∃ found : List Alert,
      st.serve now (.list tenant {status? := some status} n) = (.ok found, st) ∧
        found.length = x.ofStatus status
  listedBySeverity : comparable (v.map Alert.triggeredAt) = true →
    ∀ now severity (n : Nat), x.ofSeverity severity ≤ n → ∃ found : List Alert,
      st.serve now (.list tenant {severity? := some severity} n) = (.ok found, st) ∧
        found.length = x.ofSeverity severity

theorem Sound.length_listed
    {filter : Filter} {n : Nat}
    (h : st.Sound used)
    (hanswers : st.Answers tenant v)
    (hcomparable : comparable (v.map Alert.triggeredAt) = true)
    (now : Moment)
    (hn : (v.filter filter.passes).length ≤ n) :
    ∃ found : List Alert, st.serve now (.list tenant filter n) = (.ok found, st) ∧
      found.length = (v.filter filter.passes).length := by
  obtain ⟨found, hfound, hnewest⟩ := hanswers.lists.exists_newest hcomparable filter.passes n
  refine ⟨found, Prod.ext ((hanswers.list now filter n).trans hfound) (h.serve_read now rfl), ?_⟩
  rw [hnewest.length, min_eq_right hn]

theorem Sound.agrees
    (h : st.Sound used)
    (hanswers : st.Answers tenant v) :
    st.Agrees tenant v (Statistics.ofAlerts v) where
  reply now := Prod.ext (hanswers.statistics now) (h.serve_read now rfl)
  statuses := (Statistics.totals_ofAlerts v).1
  severities := (Statistics.totals_ofAlerts v).2
  listedByStatus hcomparable now status n hn := by
    have hpasses : Filter.passes {status? := some status} = fun a => a.status == status := by
      funext a
      simp [Filter.passes, eq_comm]
    rw [Statistics.ofStatus_ofAlerts, ← hpasses] at hn ⊢
    obtain ⟨found, hfound, hlength⟩ :=
      h.length_listed hanswers hcomparable now (Int.ofNat_le.mp hn)
    exact ⟨found, hfound, congrArg Nat.cast hlength⟩
  listedBySeverity hcomparable now severity n hn := by
    have hpasses : Filter.passes {severity? := some severity} =
        fun a => a.severity == severity := by
      funext a
      simp [Filter.passes, eq_comm]
    rw [Statistics.ofSeverity_ofAlerts, ← hpasses] at hn ⊢
    obtain ⟨found, hfound, hlength⟩ :=
      h.length_listed hanswers hcomparable now (Int.ofNat_le.mp hn)
    exact ⟨found, hfound, congrArg Nat.cast hlength⟩

variable {start : Store}

/-- **The statistics agree with the listings, and move with the requests.** After every run that
gives no id to two new alerts, on both kinds of store, and whichever commands of the run fail on
a key server: if the alerts of a tenant can be read, the counts by status and the counts by
severity add up to the number of the alerts, and if their times can be compared each count is
the number of the alerts that are listed with that status or severity and a limit no less. One
more request moves the counts of every tenant as its reply tells: a new alert is counted once
under its status and once under its severity, an alert that is acknowledged or resolved is
counted under its new status and no longer under the one it had, and nothing else changes. -/
theorem statistics_agree
    {turns : List Turn}
    (hstart : start.IsNew)
    (hids : (createdIds turns).Nodup) :
    (∀ tenant, (start.after turns).Reads (·.tenant = tenant) →
      ∃ v x, (start.after turns).Lists tenant v ∧ (start.after turns).Agrees tenant v x) ∧
    ∀ now r, (∀ a, r = .create a → a.id ∉ createdIds turns) →
      ∀ tenant, (start.after turns).Reads (·.tenant = tenant) →
        ((start.after turns).serve now r).2.Reads (·.tenant = tenant) →
          ∃ v v' x y, (start.after turns).Agrees tenant v x ∧
            ((start.after turns).serve now r).2.Agrees tenant v' y ∧
              r.Shifts tenant x y ((start.after turns).serve now r).1 := by
  have hsound := hstart.sound_after hids
  constructor
  · intro tenant hreads
    obtain ⟨v, hanswers⟩ := hsound.exists_answers hreads
    exact ⟨v, _, hanswers.lists, hsound.agrees hanswers⟩
  · intro now r hnew tenant hreads hreads'
    have hsound' : ((start.after turns).serve now r).2.Sound
        (createdIds turns ++ createdIds [⟨now, r, []⟩]) := by
      rw [snd_serve]
      refine hsound.turn ⟨now, r, []⟩ (fun a ha => ⟨hnew a ha, ?_⟩) (List.subset_append_left _ _)
      obtain rfl : r = .create a := ha
      exact List.mem_append_right _ (List.mem_singleton_self a.id)
    obtain ⟨v, hanswers⟩ := hsound.exists_answers hreads
    obtain ⟨v', hanswers'⟩ := hsound'.exists_answers hreads'
    exact ⟨v, v', _, _, hsound.agrees hanswers, hsound'.agrees hanswers',
      hsound.shifts hnew hanswers.lists hanswers'.lists hreads'⟩

/-- The alert of the first run is active, and counted anew once it is acknowledged. -/
theorem statistics_agree_firstRun :
    (IsNew (server {}) ∧ (createdIds firstRun).Nodup ∧
      ((server {}).after firstRun).Reads (·.tenant = "tenant-a") ∧
        ∃ v x, ((server {}).after firstRun).Agrees "tenant-a" v x) ∧
    ∃ x y, (∃ v, ((memory {}).after firstRun).Agrees "tenant-a" v x) ∧ x = ⟨1, 0, 0, 0, 1, 0⟩ ∧
      (((memory {}).after firstRun).serve firstNoon
        (.acknowledge "a1" "tenant-a" none none)).1 = .ok true ∧
        x.Moves .active .acknowledged y := by
  have hreads : ((server {}).after firstRun).Reads (·.tenant = "tenant-a") := reads_firstRun _
  obtain ⟨v, x, -, hagrees⟩ :=
    (statistics_agree IsNew.server (by decide : (createdIds firstRun).Nodup)).1 _ hreads
  refine ⟨⟨.server, by decide, hreads, v, x, hagrees⟩, ?_⟩
  obtain ⟨w, -, y, z, hbefore, -, hmoves⟩ :=
    (statistics_agree IsNew.memory (by decide : (createdIds firstRun).Nodup)).2 firstNoon
      (.acknowledge "a1" "tenant-a" none none) (fun _ h => by cases h) "tenant-a" trivial trivial
  exact ⟨y, z, ⟨w, hbefore⟩, (Except.ok.inj (congrArg Prod.fst (hbefore.reply firstNoon))).symm,
    rfl, hmoves⟩

/-- A run that raises two alerts, one at a time with an offset and one at a time without. -/
def mixedRun : List Turn :=
  [⟨firstNoon, .create firstAlert, []⟩,
    ⟨firstNoon, .create (.raised "a2" "tenant-a" "rule-2" "dev-1"
      ⟨2025, 1, 1, 12, 0, 0, 0, none, Eq.refl true⟩), []⟩]

/-- There are no statistics of a tenant if one of its alerts on a key server has a number that is
too long, and nothing is listed that they could agree with if the times of its alerts cannot be
compared. -/
theorem not_statistics_agree_mixedRun :
    ¬ (∀ (start : Store) (turns : List Turn) (tenant : String) (now : Moment),
        start.IsNew → (createdIds turns).Nodup →
          ∃ x, ((start.after turns).serve now (.statistics tenant)).1 = .ok x) ∧
    ¬ ∀ (start : Store) (turns : List Turn) (tenant : String) (now : Moment) (x : Statistics),
        start.IsNew → (createdIds turns).Nodup →
          ((start.after turns).serve now (.statistics tenant)).1 = .ok x →
            ∃ (n : Nat) (found : List Alert),
              ((start.after turns).serve now (.list tenant {status? := some .active} n)).1 =
                  .ok found ∧
                found.length = x.active := by
  constructor
  · intro hall
    obtain ⟨count, s, a, hafter, hstored, ⟨-, htenant, -⟩, hlong⟩ := exists_long_oneMoreRun
    obtain ⟨x, hx⟩ := hall (server {}) (oneMoreRun count) "tenant-a" firstNoon .server
      (nodup_oneMoreRun count)
    have hsound := IsNew.server.sound_after (nodup_oneMoreRun count)
    rw [hafter] at hsound hx
    obtain ⟨e, he⟩ := (hsound.exists_error (not_reads hstored htenant hlong) firstNoon).1
    rw [he] at hx
    cases hx
  · intro hall
    obtain ⟨n, found, hfound, -⟩ :=
      hall (memory {}) mixedRun "tenant-a" firstNoon _ .memory (by decide) rfl
    cases hfound

end Store
end TelemetryAlerts
