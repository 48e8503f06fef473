import TelemetryAlerts.Proofs.Catalog.Directory
import TelemetryAlerts.Worker.Evaluation

/-!
# The devices of a rule

A rule applies to the devices that it names, or to those of the types that it names, as a directory
finds them. Some may be named more than once, by themselves, under one type or under several: of
these the first counts.

**Results.**
* `isFirsts_withoutRepeats`: what is left without repeats.
* `DeviceSource.mem_named`: the devices that are named are those that the rule applies to.
* `DeviceSource.Lists.finds_iff`: the devices of a type that are found are those that are listed.
-/

namespace TelemetryAlerts

/-! ### First occurrences -/

/-- Whether a list has the items of another one, each once, in the order in which they first occur
there. -/
structure IsFirsts (firsts all : List String) : Prop where
  mem_iff : ∀ d, d ∈ firsts ↔ d ∈ all
  nodup : firsts.Nodup
  ordered : firsts.Pairwise fun d d' => all.idxOf d < all.idxOf d'

theorem isFirsts_withoutRepeats
    (ids : List String) :
    IsFirsts (Worker.withoutRepeats ids) ids := by
  induction ids with
  | nil =>
      exact ⟨fun _ => Iff.rfl, .nil, .nil⟩
  | cons id rest ih =>
      have hmem (d : String) :
          d ∈ (Worker.withoutRepeats rest).filter (· != id) ↔ d ∈ rest ∧ d ≠ id := by
        rw [List.mem_filter, ih.mem_iff, bne_iff_ne]
      have hidx {d : String} (hd : d ≠ id) : (id :: rest).idxOf d = rest.idxOf d + 1 :=
        List.idxOf_cons_ne rest hd.symm
      refine ⟨fun d => ?_, ?_, ?_⟩
      · rw [Worker.withoutRepeats, List.mem_cons, List.mem_cons, hmem]
        tauto
      · refine List.nodup_cons.mpr ⟨fun h => ((hmem id).mp h).2 rfl, ih.nodup.filter _⟩
      · refine List.pairwise_cons.mpr ⟨fun d hd => ?_, ?_⟩
        · rw [List.idxOf_cons_self, hidx ((hmem d).mp hd).2]
          exact Nat.succ_pos _
        · refine (ih.ordered.filter _).imp_of_mem fun {d d'} hd hd' hlt => ?_
          rw [hidx ((hmem d).mp hd).2, hidx ((hmem d').mp hd').2]
          exact Nat.succ_lt_succ hlt

/-! ### Devices that are named -/

namespace DeviceSource

variable {s : DeviceSource} {r : Rule} {ids : List String} {device : String}

/-- The devices that a rule names, with repeats: its own list, or the devices of one type after
the other. -/
def named (s : DeviceSource) (r : Rule) : Outcome (List String) :=
  match r.target with
  | .device => .ok r.devices
  | .deviceType => List.flatten <$> r.deviceTypes.mapM fun type => s.ofType r.tenant type

/-- Whether a rule applies to a device: it lists the device, or finds it under a type that it
lists. Which of its lists counts is told by its target. -/
def Applies (s : DeviceSource) (r : Rule) (device : String) : Prop :=
  match r.target with
  | .device => device ∈ r.devices
  | .deviceType => ∃ type ∈ r.deviceTypes, s.Finds r.tenant type device

/-- The devices that a rule applies to, each once; none if they cannot be listed. -/
def devicesFor (s : DeviceSource) (r : Rule) : List String :=
  match s.named r with
  | .ok ids => Worker.withoutRepeats ids
  | .error _ => []

theorem devicesFor_of_named
    (h : s.named r = .ok ids) :
    s.devicesFor r = Worker.withoutRepeats ids := by
  rw [devicesFor, h]

theorem mem_named
    (h : s.named r = .ok ids) :
    device ∈ ids ↔ s.Applies r device := by
  unfold named at h
  unfold Applies
  cases htarget : r.target with
  | device =>
      rw [htarget] at h
      cases h
      exact Iff.rfl
  | deviceType =>
      rw [htarget] at h
      obtain ⟨found, hfound, rfl⟩ := map_eq_ok.mp h
      simp only [List.mem_flatten, mem_of_mapM hfound, Finds]
      constructor
      · rintro ⟨here, ⟨type, htype, hhere⟩, hdevice⟩
        exact ⟨type, htype, here, hhere, hdevice⟩
      · rintro ⟨type, htype, here, hhere, hdevice⟩
        exact ⟨here, ⟨type, htype, hhere⟩, hdevice⟩

theorem mem_devicesFor
    (h : s.named r = .ok ids) :
    device ∈ s.devicesFor r ↔ s.Applies r device := by
  rw [devicesFor_of_named h, (isFirsts_withoutRepeats ids).mem_iff, mem_named h]

theorem nodup_devicesFor
    (s : DeviceSource) (r : Rule) :
    (s.devicesFor r).Nodup := by
  unfold devicesFor
  split
  · exact (isFirsts_withoutRepeats _).nodup
  · exact List.nodup_nil

/-! ### Devices that are found -/

/-- The devices of a rule are listed wherever those of its types are. -/
theorem exists_named
    (hlisted : ∀ type ∈ r.deviceTypes, ∃ here, s.ofType r.tenant type = .ok here) :
    ∃ ids, s.named r = .ok ids := by
  unfold named
  cases r.target with
  | device =>
      exact ⟨r.devices, rfl⟩
  | deviceType =>
      choose! found hfound using hlisted
      have hall : List.Forall₂ (fun type here => s.ofType r.tenant type = .ok here) r.deviceTypes
          (r.deviceTypes.map found) :=
        List.forall₂_map_right_iff.mpr (List.forall₂_same.mpr hfound)
      exact ⟨_, map_eq_ok.mpr ⟨_, mapM_of_forall₂ hall, rfl⟩⟩

variable {table : DeviceTable} {tenant deviceType : String}

/-- In a table, the devices of a tenant are found by their types. -/
theorem finds_fixed :
    Finds (.fixed table) tenant deviceType device ↔
      (device, deviceType) ∈ (table.lookup tenant).getD [] := by
  simp [Finds, ofType]

variable {text : String} {document : Yaml.Value} {tenants : List TenantEntry}

section Text

variable (hload : (ConfigFile.text text).load = .ok document)
variable (hlists : ListsTenants document tenants)

include hload hlists

/-- The devices of a tenant can be listed, and are those under its name as a text. -/
theorem exists_ofType_text
    (tenant deviceType : String) :
    ∃ ids, ofType tenant deviceType (.file (.text text)) = .ok ids ∧
      ∀ device, device ∈ ids ↔ ∃ t ∈ tenants, t.key = .str tenant ∧ t.Has deviceType device := by
  have hkeys := wellKeyed_load hload
  by_cases hkey : ∃ t ∈ tenants, t.key = .str tenant
  · have hids {t : TenantEntry} (ht : t ∈ tenants) (hkey : t.key = .str tenant) :
        ofType tenant deviceType (.file (.text text)) = .ok (t.idsOf deviceType) :=
      ofType_of_key hload hkeys hlists ht hkey
    obtain ⟨t, ht, hkey⟩ := hkey
    refine ⟨_, hids ht hkey, fun device => ?_⟩
    rw [TenantEntry.mem_idsOf]
    refine ⟨fun h => ⟨t, ht, hkey, h⟩, fun ⟨t', ht', hkey', h⟩ => ?_⟩
    rw [← TenantEntry.mem_idsOf] at h ⊢
    rwa [Except.ok.inj ((hids ht hkey).symm.trans (hids ht' hkey'))]
  · push Not at hkey
    refine ⟨[], ofType_of_forall_ne hload hlists hkey, fun device => ?_⟩
    constructor
    · intro h
      cases h
    · rintro ⟨t, ht, htext, -⟩
      exact absurd htext (hkey t ht)

theorem finds_text :
    Finds (.file (.text text)) tenant deviceType device ↔
      ∃ t ∈ tenants, t.key = .str tenant ∧ t.Has deviceType device := by
  obtain ⟨ids, hids, hmem⟩ := exists_ofType_text hload hlists tenant deviceType
  rw [← hmem, Finds, hids]
  simp

end Text

/-- Which devices of which types a directory lists under the name of a tenant. -/
inductive Lists : DeviceSource → (String → String → String → Prop) → Prop where
  | fixed (table : DeviceTable) :
      Lists (.fixed table) fun tenant deviceType device =>
        (device, deviceType) ∈ (table.lookup tenant).getD []
  | text {text : String} {document : Yaml.Value} {tenants : List TenantEntry}
      (hload : (ConfigFile.text text).load = .ok document)
      (hlists : ListsTenants document tenants) :
      Lists (.file (.text text)) fun tenant deviceType device =>
        ∃ t ∈ tenants, t.key = .str tenant ∧ t.Has deviceType device

variable {has : String → String → String → Prop}

/-- What is found is what is listed. -/
theorem Lists.finds_iff
    (h : s.Lists has) :
    s.Finds tenant deviceType device ↔ has tenant deviceType device := by
  cases h with
  | fixed =>
      exact finds_fixed
  | text hload hlists =>
      exact finds_text hload hlists

theorem Lists.exists_named
    (h : s.Lists has)
    (r : Rule) :
    ∃ ids, s.named r = .ok ids := by
  refine DeviceSource.exists_named fun type _ => ?_
  cases h with
  | fixed table =>
      exact ⟨_, rfl⟩
  | text hload hlists =>
      obtain ⟨ids, hids, -⟩ := exists_ofType_text hload hlists r.tenant type
      exact ⟨ids, hids⟩

end DeviceSource
end TelemetryAlerts
