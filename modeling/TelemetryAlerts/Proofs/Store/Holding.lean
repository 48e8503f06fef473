import TelemetryAlerts.Proofs.Json.Settled
import TelemetryAlerts.Proofs.Store.Filed
import TelemetryAlerts.Proofs.Store.Keeping

/-!
# What a store holds

Alerts are kept in memory, or as documents on a key server. What is true of both kinds of store
is said of what they hold: in memory the alerts themselves, on a key server the alerts that are
got by reading the documents. A run of requests starts from nothing, and gives no id to two new
alerts; on a key server any commands of the run may fail.

**Results.**
* `Sound.after`: the invariant of both kinds of store holds after every run.
* `Sound.serve_change`, `Sound.serve_create`: what a request does to the alerts that are held.
* `Sound.exists_answers`: what is answered about a tenant is told by the alerts of the tenant
  that are held.
-/

namespace TelemetryAlerts

namespace Alert

variable {a b : Alert}

/-- An alert as it was read back is read back as it is. -/
theorem readBack_readBack
    (a : Alert) :
    a.readBack.readBack = a.readBack := by
  simp only [readBack, Json.readBackFields_ofAssignments (Json.readBack_of_mem a.readings)]

/-- What can be read can be read again. -/
theorem isLegible_readBack
    (h : a.isLegible = true) :
    a.readBack.isLegible = true := by
  rw [isLegible_iff] at h ⊢
  exact h.imp_left fun hreadings =>
    Json.areLegibleFields_ofAssignments (Json.areLegibleFields_readBackFields _ hreadings)

theorem reading_eq_ok_iff :
    a.reading = .ok b ↔ a.isLegible = true ∧ b = a.readBack := by
  unfold reading
  split_ifs with hlegible
  · simp [hlegible, eq_comm]
  · simp [hlegible]

/-- What reading gives is told by the stored text. -/
theorem reading_of_storedText
    (h : Json.write Json.Style.stored a.toJson = Json.write Json.Style.stored b.toJson) :
    a.reading = b.reading := by
  have hread := ofText_toJson a
  rw [h, ofText_toJson b] at hread
  cases ha : a.reading <;> cases hb : b.reading <;> rw [ha, hb] at hread
  · exact congrArg Except.error (Except.error.inj hread).symm
  · cases hread
  · cases hread
  · exact congrArg Except.ok (toJson_injective (Except.ok.inj hread)).symm

end Alert

/-- The ids of alerts are those that were there, but for one that is created. -/
theorem Memory.Evolves.id_mem
    {now : Moment} {r : Request} {alerts alerts' : List Alert} {a : Alert}
    (h : Evolves now r alerts alerts')
    (hids : (alerts.map Alert.id).Nodup)
    (ha : a ∈ alerts') :
    a.id ∈ alerts.map Alert.id ∨ r = .create a := by
  rcases h.map_origin hids with horigin | ⟨b, rfl, rfl⟩
  · have hsame : alerts'.map Alert.id = alerts.map Alert.id := by
      have hfirst := congrArg (List.map Prod.fst) horigin
      rwa [List.map_map, List.map_map] at hfirst
    exact Or.inl (hsame ▸ List.mem_map_of_mem ha)
  · rcases (mem_put hids).mp ha with rfl | ⟨ha, -⟩
    · exact Or.inr rfl
    · exact Or.inl (List.mem_map_of_mem ha)

/-- A store of either kind. -/
inductive Store where
  | memory (m : Memory)
  | server (s : Server)

namespace Store

/-- A store that nobody has used. -/
inductive IsNew : Store → Prop where
  | memory : IsNew (memory {})
  | server : IsNew (server {})

/-- Serves a request at a moment. -/
def serve (now : Moment) (st : Store) (r : Request) : Outcome r.Reply × Store :=
  match st with
  | memory m => ((m.serve now r).1, memory (m.serve now r).2)
  | server s => (((Indexed.serve now r).runOn s).1, server ((Indexed.serve now r).runOn s).2)

/-- The store after requests were served one after the other; on a key server commands fail as
it is planned for them. -/
def after (st : Store) (turns : List Turn) : Store :=
  match st with
  | memory m => memory (m.after turns)
  | server s => server (Indexed.after s turns)

/-- What is got when an alert is read that was put into a store. -/
def reading (st : Store) (a : Alert) : Outcome Alert :=
  match st with
  | memory _ => .ok a
  | server _ => a.reading

/-- Whether a store holds an alert: it is in memory, or it is got from a document. -/
def Holds (st : Store) (a : Alert) : Prop :=
  match st with
  | memory m => a ∈ m.alerts
  | server s => ∃ b, Indexed.Stored s b ∧ b.reading = .ok a

/-- Whether all stored alerts of a kind can be read: on a key server, whether their whole
numbers have few enough digits. -/
def Reads (st : Store) (mine : Alert → Prop) : Prop :=
  match st with
  | memory _ => True
  | server s => ∀ b, Indexed.Stored s b → mine b → b.isLegible = true

/-- Whether a list has the alerts of a tenant that a store holds, each of them once. -/
structure Lists (st : Store) (tenant : String) (v : List Alert) : Prop where
  nodup : (v.map Alert.id).Nodup
  mem : ∀ a, a ∈ v ↔ st.Holds a ∧ a.tenant = tenant

/-- The ids of what a store holds are different and in use; the indexes of a key server are
exact. -/
def Sound (used : List String) (st : Store) : Prop :=
  match st with
  | memory m => m.Orderly ∧ ∀ a ∈ m.alerts, a.id ∈ used
  | server s => Indexed.Filed used s

variable {st st' : Store} {used : List String} {a b : Alert}

/-! ### Runs -/

theorem IsNew.sound
    (h : st.IsNew) :
    st.Sound [] := by
  cases h with
  | memory =>
      exact ⟨Memory.Orderly.empty, by simp⟩
  | server =>
      exact Indexed.Filed.empty

/-- The ids of the alerts that turns ask to create. -/
def createdIds (turns : List Turn) : List String :=
  (turns.filterMap Turn.created?).map Alert.id

theorem createdIds_append
    (turns later : List Turn) :
    createdIds (turns ++ later) = createdIds turns ++ createdIds later := by
  rw [createdIds, List.filterMap_append, List.map_append, createdIds, createdIds]

theorem after_nil
    (st : Store) :
    st.after [] = st := by
  cases st <;> rfl

theorem after_cons
    (t : Turn) (turns : List Turn) :
    st.after (t :: turns) = (st.after [t]).after turns := by
  cases st <;> rfl

theorem after_append
    (turns later : List Turn) :
    st.after (turns ++ later) = (st.after turns).after later := by
  cases st with
  | memory m =>
      exact congrArg memory List.foldl_append
  | server s =>
      exact congrArg server List.foldl_append

/-- Serving a request is a turn without failures. -/
theorem snd_serve
    (now : Moment) (st : Store) (r : Request) :
    (st.serve now r).2 = st.after [⟨now, r, []⟩] := by
  cases st with
  | memory m =>
      rfl
  | server s =>
      obtain ⟨rest, hcalm⟩ := Line.runWith_calm (Indexed.serve now r) s
        (by simp : ∀ f ∈ ([] : List (Option Failure)), f = none)
      change _ = server ((Indexed.serve now r).runWith Line.execute ⟨s, []⟩).2.server
      rw [hcalm]
      rfl

theorem Sound.turn
    {used' : List String}
    (h : st.Sound used)
    (t : Turn)
    (hnew : ∀ a, t.request = .create a → a.id ∉ used ∧ a.id ∈ used')
    (hsub : used ⊆ used') :
    (st.after [t]).Sound used' := by
  cases st with
  | server s =>
      exact Indexed.serve_filed t.now t.request hnew hsub ⟨s, t.faults⟩ h
  | memory m =>
      obtain ⟨horderly, hused⟩ := h
      refine ⟨horderly.serve t.now t.request, fun a ha => ?_⟩
      rcases (Memory.evolves horderly.ids t.now t.request).id_mem horderly.ids ha with hold | hr
      · obtain ⟨b, hb, hid⟩ := List.mem_map.mp hold
        exact hsub (hid ▸ hused b hb)
      · exact (hnew a hr).2

/-- Every run keeps a store sound that gives no id to two new alerts. -/
theorem Sound.after
    (h : st.Sound used)
    (turns : List Turn)
    (hids : (used ++ createdIds turns).Nodup) :
    (st.after turns).Sound (used ++ createdIds turns) := by
  induction turns generalizing st used with
  | nil =>
      rw [createdIds, List.filterMap_nil, List.map_nil, List.append_nil, after_nil]
      exact h
  | cons t turns ih =>
      rw [after_cons]
      cases hcreated : t.created? with
      | none =>
          have hrest : createdIds (t :: turns) = createdIds turns := by
            rw [createdIds, List.filterMap_cons_none hcreated, createdIds]
          rw [hrest] at hids ⊢
          refine ih (h.turn t (fun a ha => ?_) (List.Subset.refl _)) hids
          rw [Turn.created?, ha] at hcreated
          cases hcreated
      | some a =>
          have hrest : used ++ createdIds (t :: turns) =
              (used ++ [a.id]) ++ createdIds turns := by
            rw [createdIds, List.filterMap_cons_some hcreated, List.map_cons, createdIds,
              List.append_assoc, List.singleton_append]
          rw [hrest] at hids ⊢
          refine ih (h.turn t (fun b hb => ?_) (List.subset_append_left _ _)) hids
          rw [Turn.created?, hb] at hcreated
          obtain rfl := Option.some.inj hcreated
          refine ⟨fun hmem => ?_, by simp⟩
          exact (List.nodup_append.mp (List.nodup_append.mp hids).1).2.2 _ hmem _ (by simp) rfl

/-- What holds after a run from nothing. -/
theorem IsNew.sound_after
    {turns : List Turn}
    (h : st.IsNew)
    (hids : (createdIds turns).Nodup) :
    (st.after turns).Sound (createdIds turns) :=
  h.sound.after turns hids

/-! ### What requests do -/

theorem Sound.id_mem
    (h : st.Sound used)
    (ha : st.Holds a) :
    a.id ∈ used := by
  cases st with
  | memory m =>
      exact h.2 a ha
  | server s =>
      obtain ⟨b, hb, hread⟩ := ha
      obtain ⟨-, rfl⟩ := Alert.reading_eq_ok_iff.mp hread
      exact h.used b hb

theorem Holds.eq_of_id
    (h : st.Sound used)
    (ha : st.Holds a)
    (hb : st.Holds b)
    (hid : a.id = b.id) :
    a = b := by
  cases st with
  | memory m =>
      exact List.inj_on_of_nodup_map h.1.ids ha hb hid
  | server s =>
      obtain ⟨x, hx, hreadx⟩ := ha
      obtain ⟨y, hy, hready⟩ := hb
      obtain ⟨-, rfl⟩ := Alert.reading_eq_ok_iff.mp hreadx
      obtain ⟨hlegible, rfl⟩ := Alert.reading_eq_ok_iff.mp hready
      exact Indexed.Stored.readBack_eq hx hy hid hlegible

/-- An alert that is held is read as it is once it was changed, if it can be read. -/
theorem Holds.reading_apply
    {c : Change}
    (ha : st.Holds a)
    (hlegible : ∀ x : Alert, x.isLegible = true → (c.apply x).isLegible = true) :
    st.reading (c.apply a) = .ok (c.apply a) := by
  cases st with
  | memory m =>
      rfl
  | server s =>
      obtain ⟨b, -, hread⟩ := ha
      obtain ⟨hb, rfl⟩ := Alert.reading_eq_ok_iff.mp hread
      refine Alert.reading_eq_ok_iff.mpr ⟨hlegible _ (Alert.isLegible_readBack hb), ?_⟩
      rw [← c.apply_readBack, Alert.readBack_readBack]

/-- Whether a store is what another one becomes when an alert is put in the place of the one
with its id. -/
structure Puts (a : Alert) (st st' : Store) : Prop where
  holds : ∀ d, st'.Holds d ↔ if d.id = a.id then st.reading a = .ok d else st.Holds d
  reads : ∀ mine, st'.Reads mine → mine a → ∃ d, st.reading a = .ok d

theorem puts_insert
    {m : Memory}
    (hids : (m.alerts.map Alert.id).Nodup) :
    Puts a (memory m) (memory (m.insert a)) where
  holds d := by
    change d ∈ Memory.put a m.alerts ↔ _
    rw [Memory.mem_put hids]
    split_ifs with hid
    · simp [hid, reading, eq_comm]
    · have hne : d ≠ a := fun heq => hid (congrArg Alert.id heq)
      simp [hid, hne, Holds]
  reads _ _ _ := ⟨a, rfl⟩

theorem puts_write
    {s s' : Server}
    (hsame : ∀ id, s'.find? (Indexed.alertKey id) =
      (s.write (Indexed.alertKey a.id) (.text (Indexed.documentText a))).find?
        (Indexed.alertKey id)) :
    Puts a (server s) (server s') := by
  have hstored (x : Alert) : Indexed.Stored s' x ↔
      if x.id = a.id then Indexed.documentText x = Indexed.documentText a
      else Indexed.Stored s x := by
    rw [← Indexed.stored_write, Indexed.Stored, Indexed.Stored, hsame]
  have hid_of_reading {x d : Alert} (hread : x.reading = .ok d) : d.id = x.id := by
    rw [(Alert.reading_eq_ok_iff.mp hread).2]
    rfl
  refine ⟨fun d => ?_, fun mine hreads hmine => ⟨a.readBack, ?_⟩⟩
  · constructor
    · rintro ⟨x, hx, hread⟩
      have hid := hid_of_reading hread
      rw [hstored, ← hid] at hx
      split_ifs at hx ⊢
      · exact (Alert.reading_of_storedText hx).symm.trans hread
      · exact ⟨x, hx, hread⟩
    · intro hd
      split_ifs at hd with hdid
      · exact ⟨a, (hstored a).mpr (by rw [if_pos rfl]), hd⟩
      · obtain ⟨x, hx, hread⟩ := hd
        have hxid : ¬ x.id = a.id := fun heq => hdid ((hid_of_reading hread).trans heq)
        exact ⟨x, (hstored x).mpr (by rwa [if_neg hxid]), hread⟩
  · have hself : Indexed.Stored s' a := (hstored a).mpr (by rw [if_pos rfl])
    exact Alert.reading_eq_ok_iff.mpr ⟨hreads a hself hmine, rfl⟩

/-- A request for a change is done, or there is no alert to which the change applies, or the
alert cannot be read. -/
theorem Sound.serve_change
    {now : Moment} {r : Request} {c : Change}
    (h : st.Sound used)
    (hc : r.change? now = some c) :
    (∃ a, st.Holds a ∧ (a.id = c.id ∧ a.tenant = c.tenant ∧ c.may a = true) ∧
      r.Tells true (st.serve now r).1 ∧ Puts (c.apply a) st (st.serve now r).2) ∨
    (st.serve now r).2 = st ∧
      ((r.Tells false (st.serve now r).1 ∧
          ∀ a, st.Holds a → a.id = c.id → a.tenant = c.tenant → c.may a = false) ∨
        ¬ st.Reads (·.id = c.id) ∧ ∃ e, (st.serve now r).1 = .error e) := by
  cases st with
  | memory m =>
      have hserve : ∃ done, r.Tells done (m.serve now r).1 ∧
          (done, (m.serve now r).2) = m.update c.id c.tenant c.may c.apply := by
        cases r with
        | acknowledge | resolve | recordNotifications | markEscalated =>
            cases hc
            exact ⟨_, rfl, rfl⟩
        | _ =>
            cases hc
      obtain ⟨done, htells, hserve⟩ := hserve
      rcases Memory.update_cases h.1.ids c with
        ⟨a, ha, htarget, hupdate⟩ | ⟨hupdate, hnone⟩
      · rw [hupdate] at hserve
        obtain ⟨rfl, hafter⟩ := Prod.mk.inj hserve
        refine Or.inl ⟨a, ha, htarget, htells, ?_⟩
        simp only [serve, hafter]
        exact puts_insert h.1.ids
      · rw [hupdate] at hserve
        obtain ⟨rfl, hafter⟩ := Prod.mk.inj hserve
        refine Or.inr ⟨congrArg memory hafter, Or.inl ⟨htells, fun a ha hid htenant => ?_⟩⟩
        simpa using hnone a ha hid htenant
  | server s =>
      have hkept : Indexed.Kept s := h.toKept
      simp only [serve]
      rcases hkept.run_change hc with
        ⟨b, o, s', hb, ⟨hid, htenant, hmay⟩, hlegible, hrun, htells, hsame⟩ |
          ⟨o, hnone, hrun, htells⟩ | ⟨⟨b, hb, hid, hlong⟩, e, hrun⟩
      · rw [hrun]
        refine Or.inl ⟨b.readBack, ⟨b, hb, Alert.reading_eq_ok_iff.mpr ⟨hlegible, rfl⟩⟩,
          ⟨hid, htenant, by rwa [c.may_readBack]⟩, htells, puts_write fun id => ?_⟩
        rw [hsame, show (c.apply b.readBack).id = b.id from c.id_apply b.readBack]
      · rw [hrun]
        refine Or.inr ⟨rfl, Or.inl ⟨htells, ?_⟩⟩
        rintro a ⟨x, hx, hread⟩ hid htenant
        obtain ⟨-, rfl⟩ := Alert.reading_eq_ok_iff.mp hread
        rw [c.may_readBack]
        exact hnone x hx hid htenant
      · rw [hrun]
        refine Or.inr ⟨rfl, Or.inr ⟨fun hreads => ?_, e, rfl⟩⟩
        rw [hreads b hb hid] at hlong
        cases hlong

/-- A new alert is refused, or held if it can be read. -/
theorem Sound.serve_create
    (h : st.Sound used)
    (now : Moment) (a : Alert) :
    ((∃ e, (st.serve now (.create a)).1 = .error e) ∧ (st.serve now (.create a)).2 = st) ∨
      (st.serve now (.create a)).1 = .ok () ∧ Puts a st (st.serve now (.create a)).2 := by
  cases st with
  | memory m =>
      simp only [serve, Memory.serve]
      split_ifs
      · exact Or.inl ⟨⟨_, rfl⟩, rfl⟩
      · exact Or.inr ⟨rfl, puts_insert h.1.ids⟩
  | server s =>
      have hkept : Indexed.Kept s := h.toKept
      simp only [serve]
      rcases hkept.run_create now a with ⟨e, hrun⟩ | ⟨s', hrun, hsame⟩
      · rw [hrun]
        exact Or.inl ⟨⟨e, rfl⟩, rfl⟩
      · rw [hrun]
        exact Or.inr ⟨rfl, puts_write hsame⟩

theorem Sound.serve_read
    {r : Request}
    (h : st.Sound used)
    (now : Moment)
    (hr : r.reads = true) :
    (st.serve now r).2 = st := by
  cases st with
  | memory m =>
      cases r with
      | get | openOn | latestOf | list | ofRule | statistics =>
          rfl
      | _ =>
          cases hr
  | server s =>
      exact congrArg server (Indexed.Kept.run_read (h : Indexed.Filed used s).toKept now hr)

/-- An alert is found by its id and tenant, or there is none. -/
theorem Sound.serve_get
    {id : String}
    (h : st.Sound used)
    (hreads : st.Reads (·.id = id))
    (now : Moment) (tenant : String) :
    (∃ a, st.Holds a ∧ a.id = id ∧ a.tenant = tenant ∧
      (st.serve now (.get id tenant)).1 = .ok (some a)) ∨
    (∀ a, st.Holds a → a.id = id → a.tenant ≠ tenant) ∧
      (st.serve now (.get id tenant)).1 = .ok none := by
  cases st with
  | memory m =>
      simp only [serve, Memory.serve]
      cases hfind : m.find? id tenant with
      | none =>
          refine Or.inr ⟨fun a ha hid htenant => ?_, rfl⟩
          rw [(Memory.find?_eq_some h.1.ids).mpr ⟨ha, hid, htenant⟩] at hfind
          cases hfind
      | some a =>
          obtain ⟨ha, hid, htenant⟩ := (Memory.find?_eq_some h.1.ids).mp hfind
          exact Or.inl ⟨a, ha, hid, htenant, rfl⟩
  | server s =>
      have hkept : Indexed.Kept s := h.toKept
      simp only [serve, Indexed.serve]
      rcases hkept.run_loadFor now id tenant with
        ⟨b, hb, hid, hlegible, hload⟩ | ⟨hnone, hload⟩ | ⟨⟨b, hb, hid, hlong⟩, e, hload⟩
      · rw [hload]
        by_cases htenant : b.tenant = tenant
        · refine Or.inl ⟨b.readBack, ⟨b, hb, Alert.reading_eq_ok_iff.mpr ⟨hlegible, rfl⟩⟩, hid,
            htenant, by rw [if_pos htenant]⟩
        · refine Or.inr ⟨?_, by rw [if_neg htenant]⟩
          rintro a ⟨x, hx, hread⟩ hxid hxtenant
          obtain ⟨-, rfl⟩ := Alert.reading_eq_ok_iff.mp hread
          have hsame := hx.outline hb (hxid.trans hid.symm)
          exact htenant ((congrArg Alert.tenant hsame :).symm.trans hxtenant)
      · rw [hload]
        refine Or.inr ⟨?_, rfl⟩
        rintro a ⟨x, hx, hread⟩ hxid
        obtain ⟨-, rfl⟩ := Alert.reading_eq_ok_iff.mp hread
        exact absurd hxid (hnone x hx)
      · rw [hreads b hb hid] at hlong
        cases hlong

/-! ### What is answered about a tenant -/

/-- Whether a list has the alerts of a tenant that a store holds, and the store answers from
it. The order of the open alerts of a device may be another one before they are sorted. -/
structure Answers (st : Store) (tenant : String) (v : List Alert) : Prop where
  lists : st.Lists tenant v
  statistics : ∀ now, (st.serve now (.statistics tenant)).1 = .ok (Statistics.ofAlerts v)
  list : ∀ now filter limit, (st.serve now (.list tenant filter limit)).1 =
    (newestFirst (v.filter filter.passes)).map (upTo limit)
  ofRule : ∀ now rule limit, (st.serve now (.ofRule tenant rule limit)).1 =
    (newestFirst (v.filter fun a => a.rule == rule)).map (upTo limit)
  openOn : ∀ now device, ':' ∉ tenant.toList → ':' ∉ device.toList → ∃ w : List Alert,
    w.Perm (v.filter fun a => a.device == device && a.isOpen) ∧
      (st.serve now (.openOn tenant device)).1 = newestFirst w

theorem answers_memory
    {m : Memory}
    (hids : (m.alerts.map Alert.id).Nodup)
    (tenant : String) :
    Answers (memory m) tenant (m.alerts.filter fun a => a.tenant == tenant) := by
  have hfilter (keep : Alert → Bool) :
      m.ofTenant tenant keep = (m.alerts.filter fun a => a.tenant == tenant).filter keep := by
    rw [Memory.ofTenant, List.filter_filter]
    exact List.filter_congr fun a _ => Bool.and_comm _ _
  constructor
  · exact ⟨hids.sublist (List.filter_sublist.map Alert.id), fun a => by simp [Holds]⟩
  · intro now
    have hall := hfilter fun _ => true
    rw [List.filter_true] at hall
    simp only [serve, Memory.serve, hall]
  · intro now filter limit
    simp only [serve, Memory.serve, hfilter]
  · intro now rule limit
    simp only [serve, Memory.serve, hfilter]
  · intro now device _ _
    exact ⟨_, .refl _, by simp only [serve, Memory.serve, hfilter]⟩

section Server

variable {s : Server} {tenant : String} {members : List Alert}

/-- What is got from stored alerts that an index names, if all of them can be read. -/
theorem run_index_of_legible
    {α : Type} {key : String}
    (now : Moment)
    (hset : s.IsSet key)
    (hids : s.set key = members.map Alert.id)
    (hmembers : ∀ a ∈ members, Indexed.Stored s a ∧ a.isLegible = true)
    (f : List Alert → ServerAction α) :
    ServerAction.runOn
        (do
          let ids ← ServerAction.command (.members key)
          f (← Indexed.loadAll now ids)) s =
      (f (members.map Alert.readBack)).runOn s := by
  have hrun := Indexed.run_index now hset hids (fun a ha => (hmembers a ha).1) f
  have hall : members.all Alert.isLegible = true := by
    simpa using fun a ha => (hmembers a ha).2
  rwa [Alert.mapM_reading, if_pos hall] at hrun

/-- What is read from documents is what is held under their ids. -/
theorem mem_map_readBack
    (hmembers : ∀ a ∈ members, Indexed.Stored s a ∧ a.isLegible = true) :
    a ∈ members.map Alert.readBack ↔ (server s).Holds a ∧ a.id ∈ members.map Alert.id := by
  constructor
  · intro ha
    obtain ⟨b, hb, rfl⟩ := List.mem_map.mp ha
    obtain ⟨hstored, hlegible⟩ := hmembers b hb
    exact ⟨⟨b, hstored, Alert.reading_eq_ok_iff.mpr ⟨hlegible, rfl⟩⟩,
      List.mem_map.mpr ⟨b, hb, rfl⟩⟩
  · rintro ⟨⟨b, hb, hread⟩, hlisted⟩
    obtain ⟨hlegible, rfl⟩ := Alert.reading_eq_ok_iff.mp hread
    obtain ⟨c, hc, hcid⟩ := List.mem_map.mp hlisted
    rw [← Indexed.Stored.readBack_eq (hmembers c hc).1 hb hcid hlegible]
    exact List.mem_map_of_mem hc

theorem nodup_map_readBack
    {key : String}
    (hset : s.IsSet key)
    (hids : s.set key = members.map Alert.id) :
    ((members.map Alert.readBack).map Alert.id).Nodup := by
  rw [List.map_map, show Alert.id ∘ Alert.readBack = Alert.id from rfl, ← hids]
  exact hset.nodup

/-- The index of a tenant lists the stored alerts of the tenant. -/
theorem exists_stored
    (h : Indexed.Filed used s)
    (tenant : String) :
    ∃ members : List Alert,
      s.set (Indexed.tenantKey tenant) = members.map Alert.id ∧
        ∀ a ∈ members, Indexed.Stored s a ∧ a.tenant = tenant := by
  refine Indexed.Mirrors.exists_map_id fun id hid => ?_
  obtain ⟨a, ha, hkey⟩ := (h.ofTenant id tenant).mp hid
  obtain ⟨hid, htenant⟩ := Prod.mk.inj hkey
  exact ⟨a, ⟨ha, htenant⟩, hid⟩

/-- The index of a tenant lists the alerts of the tenant that are held. -/
theorem exists_members
    (h : Indexed.Filed used s)
    (hreads : (server s).Reads (·.tenant = tenant)) :
    ∃ members : List Alert,
      s.set (Indexed.tenantKey tenant) = members.map Alert.id ∧
        (∀ a ∈ members, Indexed.Stored s a ∧ a.isLegible = true) ∧
          Lists (server s) tenant (members.map Alert.readBack) := by
  obtain ⟨members, hids, hmembers⟩ := exists_stored h tenant
  have hlegible (a : Alert) (ha : a ∈ members) : Indexed.Stored s a ∧ a.isLegible = true :=
    ⟨(hmembers a ha).1, hreads a (hmembers a ha).1 (hmembers a ha).2⟩
  refine ⟨members, hids, hlegible,
    nodup_map_readBack (h.sets _ (by simp [Indexed.IsIndex])) hids, fun a => ?_⟩
  rw [mem_map_readBack hlegible, ← hids, h.ofTenant]
  refine and_congr_right fun hheld => ?_
  obtain ⟨b, hb, hread⟩ := hheld
  obtain ⟨-, rfl⟩ := Alert.reading_eq_ok_iff.mp hread
  constructor
  · rintro ⟨x, hx, hkey⟩
    obtain ⟨hid, rfl⟩ := Prod.mk.inj hkey
    exact (congrArg Alert.tenant (hb.outline hx hid.symm) :)
  · rintro rfl
    exact ⟨b, hb, rfl⟩

/-- The index of a device lists open alerts of the device, and perhaps some that have ended. -/
theorem exists_openMembers
    {device : String}
    (h : Indexed.Filed used s)
    (hreads : (server s).Reads (·.tenant = tenant))
    (htenant : ':' ∉ tenant.toList)
    (hdevice : ':' ∉ device.toList) :
    ∃ members : List Alert,
      s.set (Indexed.openKey tenant device) = members.map Alert.id ∧
        (∀ a ∈ members, Indexed.Stored s a ∧ a.isLegible = true) ∧
          ∀ a, a ∈ (members.map Alert.readBack).filter Alert.isOpen ↔
            ((server s).Holds a ∧ a.tenant = tenant) ∧ a.device = device ∧ a.isOpen = true := by
  have hlisted (id : String) (hid : id ∈ s.set (Indexed.openKey tenant device)) :
      ∃ a, (Indexed.Stored s a ∧ a.tenant = tenant ∧ a.device = device) ∧ a.id = id := by
    obtain ⟨a, ha, hkey⟩ := h.ofOpen id tenant device hid
    obtain ⟨hid, hopen⟩ := Prod.mk.inj hkey
    obtain ⟨htenant', hdevice'⟩ := (Indexed.openKey_inj htenant hdevice).mp hopen.symm
    exact ⟨a, ⟨ha, htenant'.symm, hdevice'.symm⟩, hid⟩
  obtain ⟨members, hids, hmembers⟩ := Indexed.Mirrors.exists_map_id hlisted
  have hlegible (a : Alert) (ha : a ∈ members) : Indexed.Stored s a ∧ a.isLegible = true :=
    ⟨(hmembers a ha).1, hreads a (hmembers a ha).1 (hmembers a ha).2.1⟩
  refine ⟨members, hids, hlegible, fun a => ?_⟩
  rw [List.mem_filter, mem_map_readBack hlegible]
  constructor
  · rintro ⟨⟨⟨b, hb, hread⟩, hlisted⟩, hopen⟩
    obtain ⟨-, rfl⟩ := Alert.reading_eq_ok_iff.mp hread
    obtain ⟨c, hc, hcid⟩ := List.mem_map.mp hlisted
    have hsame := hb.outline (hmembers c hc).1 hcid.symm
    exact ⟨⟨⟨b, hb, hread⟩, (congrArg Alert.tenant hsame :).trans (hmembers c hc).2.1⟩,
      (congrArg Alert.device hsame :).trans (hmembers c hc).2.2, hopen⟩
  · rintro ⟨⟨⟨b, hb, hread⟩, rfl⟩, rfl, hopen⟩
    obtain ⟨-, rfl⟩ := Alert.reading_eq_ok_iff.mp hread
    refine ⟨⟨⟨b, hb, hread⟩, ?_⟩, hopen⟩
    rw [← hids]
    exact h.openListed b hb hopen

theorem exists_answers_server
    (h : Indexed.Filed used s)
    (hreads : (server s).Reads (·.tenant = tenant)) :
    ∃ v, Answers (server s) tenant v := by
  obtain ⟨members, hids, hlegible, hlists⟩ := exists_members h hreads
  have hset : s.IsSet (Indexed.tenantKey tenant) := h.sets _ (by simp [Indexed.IsIndex])
  have hlisted (now : Moment) (keep : Alert → Bool) :
      (Indexed.listed now (Indexed.tenantKey tenant) keep).runOn s =
        (newestFirst ((members.map Alert.readBack).filter keep), s) :=
    run_index_of_legible now hset hids hlegible fun found =>
      liftM (newestFirst (found.filter keep))
  refine ⟨members.map Alert.readBack, hlists, fun now => ?_, fun now filter limit => ?_,
    fun now rule limit => ?_, fun now device htenant hdevice => ?_⟩
  · exact congrArg Prod.fst (run_index_of_legible now hset hids hlegible fun found =>
      pure (Statistics.ofAlerts found))
  · exact congrArg Prod.fst (Indexed.runOn_bind_pure (upTo limit) (hlisted now filter.passes))
  · exact congrArg Prod.fst (Indexed.runOn_bind_pure (upTo limit) (hlisted now _))
  · obtain ⟨found, hfoundIds, hfoundLegible, hfound⟩ :=
      exists_openMembers h hreads htenant hdevice
    have hopenSet : s.IsSet (Indexed.openKey tenant device) :=
      h.sets _ (by simp [Indexed.IsIndex])
    refine ⟨(found.map Alert.readBack).filter Alert.isOpen, ?_,
      congrArg Prod.fst (run_index_of_legible now hopenSet hfoundIds hfoundLegible fun all =>
        liftM (newestFirst (all.filter Alert.isOpen)))⟩
    refine (List.perm_ext_iff_of_nodup ((nodup_map_readBack hopenSet hfoundIds).of_map.filter _)
      (hlists.nodup.of_map.filter _)).mpr fun a => ?_
    simp only [hfound, List.mem_filter, hlists.mem, Bool.and_eq_true, beq_iff_eq]

end Server

/-- What is answered about a tenant is told by the alerts of the tenant that are held, if all of
them can be read. -/
theorem Sound.exists_answers
    {tenant : String}
    (h : st.Sound used)
    (hreads : st.Reads (·.tenant = tenant)) :
    ∃ v, st.Answers tenant v := by
  cases st with
  | memory m =>
      exact ⟨_, answers_memory h.1.ids tenant⟩
  | server s =>
      exact exists_answers_server h hreads

/-- Nothing is answered about a tenant one of whose stored alerts cannot be read. -/
theorem Sound.exists_error
    {tenant : String}
    (h : st.Sound used)
    (hlong : ¬ st.Reads (·.tenant = tenant))
    (now : Moment) :
    (∃ e, (st.serve now (.statistics tenant)).1 = .error e) ∧
      ∀ filter limit, ∃ e, (st.serve now (.list tenant filter limit)).1 = .error e := by
  cases st with
  | memory m =>
      exact absurd trivial hlong
  | server s =>
      have hfiled : Indexed.Filed used s := h
      obtain ⟨members, hids, hmembers⟩ := exists_stored hfiled tenant
      have hset : s.IsSet (Indexed.tenantKey tenant) := hfiled.sets _ (by simp [Indexed.IsIndex])
      have hsome : ¬ members.all Alert.isLegible = true := by
        rw [List.all_eq_true]
        refine fun hall => hlong fun b hb htenant => ?_
        have hlisted : b.id ∈ members.map Alert.id := by
          rw [← hids]
          exact (hfiled.ofTenant b.id tenant).mpr ⟨b, hb, by rw [htenant]⟩
        obtain ⟨c, hc, hcid⟩ := List.mem_map.mp hlisted
        have hsame := (hmembers c hc).1
        rw [Indexed.Stored, hcid, hb] at hsame
        exact Alert.isLegible_of_storedText (Entry.text.inj (Option.some.inj hsame)) (hall c hc)
      have hfails {α : Type} (f : List Alert → ServerAction α) :
          ServerAction.runOn
              (do
                let ids ← ServerAction.command (.members (Indexed.tenantKey tenant))
                f (← Indexed.loadAll now ids)) s =
            (.error (.kind .unusableValue), s) := by
        rw [Indexed.run_index now hset hids (fun a ha => (hmembers a ha).1) f,
          Alert.mapM_reading, if_neg hsome]
      refine ⟨⟨_, congrArg Prod.fst (hfails fun found => pure (Statistics.ofAlerts found))⟩,
        fun filter limit => ?_⟩
      have hlisted := hfails fun found => liftM (newestFirst (found.filter filter.passes))
      exact ⟨_, congrArg Prod.fst (Indexed.runOn_bind_pure (upTo limit) hlisted)⟩

theorem server_firstRun :
    (server {}).after firstRun = server (Indexed.reached {} firstRun) :=
  congrArg server after_firstRun

theorem reads_firstRun
    (mine : Alert → Prop) :
    ((server {}).after firstRun).Reads mine := by
  rw [server_firstRun]
  exact fun b hb _ => sound_firstRun.legible b hb

theorem holds_firstRun :
    ((server {}).after firstRun).Holds firstAlert.readBack := by
  rw [server_firstRun]
  exact ⟨firstAlert, mirrors_firstRun.stored firstAlert (by simp),
    Alert.reading_eq_ok_iff.mpr ⟨by decide, rfl⟩⟩

/-- A stored alert that cannot be read. -/
theorem not_reads
    {s : Server} {mine : Alert → Prop}
    (ha : Indexed.Stored s a)
    (hmine : mine a)
    (hlong : a.isLegible = false) :
    ¬ (server s).Reads mine := by
  intro hreads
  rw [hreads a ha hmine] at hlong
  cases hlong

/-- A run that raises an alert of which a number of notifications was recorded, and records one
more. -/
def oneMoreRun (count : Int) : List Turn :=
  [⟨firstNoon, .create (notified count), []⟩,
    ⟨firstNoon, .recordNotifications "a1" "tenant-a" 1, []⟩]

theorem nodup_oneMoreRun
    (count : Int) :
    (createdIds (oneMoreRun count)).Nodup :=
  List.nodup_singleton "a1"

theorem stored_oneMoreRun
    (count : Int)
    (hlegible : (notified count).isLegible = true) :
    ∃ s, (server {}).after (oneMoreRun count) = server s ∧
      Indexed.Stored s (notified (count + 1)) := by
  have hmirrors := mirrors_created firstNoon (notified count) rfl
  have hupdate : (Indexed.update firstNoon "a1" "tenant-a" (fun _ => true)
      fun a => a.recordNotifications 1 firstNoon).runOn
        (Indexed.reached {} [⟨firstNoon, .create (notified count), []⟩]) =
      (.ok (some (notified (count + 1))),
        (Indexed.reached {} [⟨firstNoon, .create (notified count), []⟩]).write
          (Indexed.alertKey "a1") (.text (Indexed.documentText (notified (count + 1))))) :=
    Indexed.run_update hmirrors (by simpa using hlegible) firstNoon
      (.recordNotifications firstNoon "a1" "tenant-a" 1)
  have hserve := Indexed.runOn_bind_pure (fun _ => ()) hupdate
  have hafter : (server {}).after (oneMoreRun count) =
      server ((Indexed.reached {} [⟨firstNoon, .create (notified count), []⟩]).write
        (Indexed.alertKey "a1") (.text (Indexed.documentText (notified (count + 1))))) := by
    rw [oneMoreRun, after_cons, ← snd_serve, ← snd_serve]
    exact congrArg server (congrArg Prod.snd hserve)
  exact ⟨_, hafter, Server.find?_write_self _ _ _⟩

/-- With the largest count that can be read and one more, the alert cannot be read. -/
theorem exists_long_oneMoreRun :
    ∃ count s a, (server {}).after (oneMoreRun count) = server s ∧ Indexed.Stored s a ∧
      (a.id = "a1" ∧ a.tenant = "tenant-a" ∧ a.status = .active) ∧
        a.isLegible = false := by
  obtain ⟨largest, hlargest⟩ : ∃ n : Nat, n + 1 = 10 ^ Json.maxWholeDigits :=
    ⟨10 ^ Json.maxWholeDigits - 1, Nat.sub_add_cancel (Nat.pow_pos (by decide))⟩
  obtain ⟨s, hafter, hstored⟩ := stored_oneMoreRun largest (by
    rw [isLegible_notified]
    omega)
  refine ⟨largest, s, notified (largest + 1), hafter, hstored, ⟨rfl, rfl, rfl⟩, ?_⟩
  rw [Bool.eq_false_iff, ne_eq, isLegible_notified]
  omega

end Store
end TelemetryAlerts
