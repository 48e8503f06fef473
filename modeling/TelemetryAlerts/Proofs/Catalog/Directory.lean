import TelemetryAlerts.Catalog.Devices
import TelemetryAlerts.Proofs.Yaml.Keys

/-!
# Tenants and their devices

A file lists devices under tenants. The names of the tenants are the keys as they are shown, and
so are the ids of devices and their types; but the devices of a tenant are looked up by its name
as a text. A tenant under a number, a date or any other key that is no text is thus named, while
none of its devices are found.

**Results.**
* `tenants_eq`: what the tenants of a file are.
* `ofType_of_key`, `ofType_of_forall_ne`: what the devices of a tenant are.
* `directory_agrees_iff`: a device that is found is listed; all listed devices are found just if
  each is listed under a text, too.
-/

namespace TelemetryAlerts

open Yaml (Value)
open Yaml.Value

/-- A device as it is listed. -/
structure DeviceEntry where
  id : Value
  deviceType : Value

/-- Whether a value lists a device. -/
def DeviceEntry.IsIn (d : DeviceEntry) (v : Value) : Prop :=
  ∃ entries, v = .map entries ∧ (textEntries entries).lookup "id" = some d.id ∧
    (textEntries entries).lookup "device_type_id" = some d.deviceType

/-- The id of a device, if it is of a type. -/
def DeviceEntry.idIf (deviceType : String) (d : DeviceEntry) : Option String :=
  if d.deviceType.display = deviceType then some d.id.display else none

/-- A tenant as it is listed: a key with devices. -/
structure TenantEntry where
  key : Value
  devices : List DeviceEntry

namespace TenantEntry

/-- Whether an entry of a mapping lists a tenant. -/
def IsIn (t : TenantEntry) (p : Value × Value) : Prop :=
  p.1 = t.key ∧ ∃ entries items, p.2 = .map entries ∧
    (textEntries entries).lookup "devices" = some (.list items) ∧
    List.Forall₂ (fun v d => d.IsIn v) items t.devices

/-- The name of a tenant. -/
def name (t : TenantEntry) : String :=
  t.key.display

/-- Whether a tenant has a device of a type. -/
def Has (t : TenantEntry) (deviceType id : String) : Prop :=
  ∃ d ∈ t.devices, d.deviceType.display = deviceType ∧ d.id.display = id

/-- The ids of a tenant's devices of a type. -/
def idsOf (t : TenantEntry) (deviceType : String) : List String :=
  t.devices.filterMap (DeviceEntry.idIf deviceType)

theorem mem_idsOf
    {t : TenantEntry} {deviceType id : String} :
    id ∈ t.idsOf deviceType ↔ t.Has deviceType id := by
  simp [idsOf, DeviceEntry.idIf, Has]

end TenantEntry

/-- Whether a document lists tenants. -/
def ListsTenants (document : Value) (tenants : List TenantEntry) : Prop :=
  ∃ top entries, document = .map top ∧ (textEntries top).lookup "tenants" = some (.map entries) ∧
    List.Forall₂ (fun p t => t.IsIn p) entries tenants

namespace DeviceSource

variable {f : ConfigFile} {document : Value} {tenants : List TenantEntry} {t : TenantEntry}
variable {tenant deviceType : String}

theorem isBlank_of_lookup
    {entries : List (Value × Value)} {key : String} {v : Value}
    (h : (textEntries entries).lookup key = some v) :
    (Value.map entries).isBlank = false := by
  cases entries with
  | nil =>
      cases h
  | cons p rest =>
      rfl

theorem get_of_lookup
    {entries : List (Value × Value)} {key : String} {v : Value}
    (h : (textEntries entries).lookup key = some v) :
    (Value.map entries).get key = .ok v := by
  rw [Value.get, h]
  rfl

/-- The entries of the tenants of a document, however few. -/
theorem tenantsIn_of_lists
    (h : ListsTenants document tenants) :
    ∃ top entries, document = .map top ∧ (.str "tenants", Value.map entries) ∈ top ∧
      tenantsIn document = .ok (.map entries) ∧
      List.Forall₂ (fun p t => t.IsIn p) entries tenants := by
  obtain ⟨top, entries, rfl, hlookup, hentries⟩ := h
  refine ⟨top, entries, rfl, mem_of_lookup_textEntries hlookup, ?_, hentries⟩
  rw [tenantsIn, get_of_lookup hlookup]
  cases entries <;> rfl

/-- All mappings in a file have each text key once. -/
theorem wellKeyed_load
    {text : String}
    (hload : (ConfigFile.text text).load = .ok document) :
    document.WellKeyed := by
  obtain ⟨v, hread, hv⟩ := bind_eq_ok.mp hload
  cases hv
  split_ifs
  · exact .map List.nodup_nil (by simp)
  · exact wellKeyed_read hread

/-- The tenants of a file are named after their keys. -/
theorem tenants_eq
    (hload : f.load = .ok document)
    (h : ListsTenants document tenants) :
    DeviceSource.tenants (.file f) = .ok (rising (tenants.map TenantEntry.name)) := by
  obtain ⟨top, entries, -, -, htenants, hentries⟩ := tenantsIn_of_lists h
  have hnames : (entries.map (·.1)).map Value.display = tenants.map TenantEntry.name := by
    rw [List.map_map]
    refine List.forall₂_eq_eq_eq ▸ List.forall₂_map_left_iff.mpr
      (List.forall₂_map_right_iff.mpr (hentries.imp fun p t ht => ?_))
    exact congrArg Value.display ht.1
  refine bind_eq_ok.mpr ⟨document, hload, bind_eq_ok.mpr ⟨_, htenants, ?_⟩⟩
  rw [← hnames]
  rfl

theorem idIfOfType_eq
    {d : DeviceEntry} {v : Value}
    (h : d.IsIn v) :
    idIfOfType deviceType v = .ok (d.idIf deviceType) := by
  obtain ⟨entries, rfl, hid, htype⟩ := h
  refine bind_eq_ok.mpr ⟨_, get_of_lookup htype, ?_⟩
  rw [DeviceEntry.idIf]
  split_ifs with hsame
  · simp only [hid]
    rfl
  · rfl

/-- The devices of a tenant under a text are found by the text. -/
theorem ofType_of_key
    (hload : f.load = .ok document)
    (hkeys : document.WellKeyed)
    (h : ListsTenants document tenants)
    (ht : t ∈ tenants)
    (hkey : t.key = .str tenant) :
    ofType tenant deviceType (.file f) = .ok (t.idsOf deviceType) := by
  obtain ⟨top, entries, rfl, htop, htenants, hentries⟩ := tenantsIn_of_lists h
  obtain ⟨⟨k, v⟩, hmem, hk, es, items, rfl, hdevices, hitems⟩ := exists_of_mem_right hentries ht
  obtain rfl : k = .str tenant := hk.trans hkey
  have hfound := lookup_textEntries (hkeys.entry htop).nodup_textKeys hmem
  have hids : items.mapM (idIfOfType deviceType) =
      .ok (t.devices.map (DeviceEntry.idIf deviceType)) :=
    mapM_of_forall₂ (hitems.imp fun v d hd => idIfOfType_eq hd)
  refine bind_eq_ok.mpr ⟨_, hload, bind_eq_ok.mpr ⟨_, htenants, bind_eq_ok.mpr
    ⟨_, get_of_lookup hfound, ?_⟩⟩⟩
  rw [isBlank_of_lookup hdevices, if_neg Bool.false_ne_true]
  refine bind_eq_ok.mpr ⟨_, get_of_lookup hdevices, ?_⟩
  cases items with
  | nil =>
      rw [TenantEntry.idsOf, List.forall₂_nil_left_iff.mp hitems]
      rfl
  | cons v items =>
      refine bind_eq_ok.mpr ⟨v :: items, rfl, bind_eq_ok.mpr ⟨_, hids, ?_⟩⟩
      rw [List.filterMap_map]
      rfl

/-- No devices are found by a name that no tenant has as a text. -/
theorem ofType_of_forall_ne
    (hload : f.load = .ok document)
    (h : ListsTenants document tenants)
    (hkey : ∀ t ∈ tenants, t.key ≠ .str tenant) :
    ofType tenant deviceType (.file f) = .ok [] := by
  obtain ⟨top, entries, rfl, -, htenants, hentries⟩ := tenantsIn_of_lists h
  have hnone : (textEntries entries).lookup tenant = none := by
    refine lookup_textEntries_eq_none fun v hmem => ?_
    obtain ⟨t, ht, hk, -⟩ := exists_of_mem_left hentries hmem
    exact hkey t ht hk.symm
  refine bind_eq_ok.mpr ⟨_, hload, bind_eq_ok.mpr ⟨_, htenants, bind_eq_ok.mpr
    ⟨.null, ?_, rfl⟩⟩⟩
  rw [Value.get, hnone]
  rfl

/-- Whether a device of a type is found by the name of its tenant. -/
def Finds (s : DeviceSource) (tenant deviceType id : String) : Prop :=
  ∃ ids, s.ofType tenant deviceType = .ok ids ∧ id ∈ ids

end DeviceSource

open DeviceSource

/-- Every tenant that a file lists is named, and a device that is found by the name is listed
under it. A tenant under a text has just the devices that are listed there. A device that is
listed is found by the name of its tenant just if one of the same id and type is listed under
that name as a text. -/
theorem directory_agrees_iff
    (text : String) (document : Value) (tenants : List TenantEntry)
    (hload : (ConfigFile.text text).load = .ok document)
    (hlists : ListsTenants document tenants) :
    (∃ names, DeviceSource.tenants (.file (.text text)) = .ok names ∧
      ∀ name, name ∈ names ↔ ∃ t ∈ tenants, t.name = name) ∧
    (∀ name deviceType, ∃ ids, ofType name deviceType (.file (.text text)) = .ok ids ∧
      ∀ id ∈ ids, ∃ t ∈ tenants, t.name = name ∧ t.Has deviceType id) ∧
    (∀ t ∈ tenants, ∀ name deviceType, t.key = .str name →
      ofType name deviceType (.file (.text text)) = .ok (t.idsOf deviceType)) ∧
    ∀ t ∈ tenants, ∀ deviceType id, t.Has deviceType id →
      (DeviceSource.Finds (.file (.text text)) t.name deviceType id ↔
        ∃ t' ∈ tenants, t'.key = .str t.name ∧ t'.Has deviceType id) := by
  have hkeys : document.WellKeyed := wellKeyed_load hload
  have hnames := tenants_eq hload hlists
  refine ⟨⟨_, hnames, fun name => ?_⟩, fun name deviceType => ?_, ?_, ?_⟩
  · simp [rising, List.mem_mergeSort]
  · by_cases hkey : ∃ t ∈ tenants, t.key = .str name
    · obtain ⟨t, ht, hkey⟩ := hkey
      refine ⟨_, ofType_of_key hload hkeys hlists ht hkey, fun id hid => ?_⟩
      exact ⟨t, ht, by rw [TenantEntry.name, hkey]; rfl, TenantEntry.mem_idsOf.mp hid⟩
    · push Not at hkey
      exact ⟨[], ofType_of_forall_ne hload hlists hkey, by simp⟩
  · intro t ht name deviceType hkey
    exact ofType_of_key hload hkeys hlists ht hkey
  · intro t _ deviceType id _
    constructor
    · rintro ⟨ids, hids, hid⟩
      by_cases hkey : ∃ t' ∈ tenants, t'.key = .str t.name
      · obtain ⟨t', ht', hkey⟩ := hkey
        rw [ofType_of_key hload hkeys hlists ht' hkey] at hids
        cases hids
        exact ⟨t', ht', hkey, TenantEntry.mem_idsOf.mp hid⟩
      · push Not at hkey
        rw [ofType_of_forall_ne hload hlists hkey] at hids
        cases hids
        cases hid
    · rintro ⟨t', ht', hkey, hhas⟩
      exact ⟨_, ofType_of_key hload hkeys hlists ht' hkey, TenantEntry.mem_idsOf.mpr hhas⟩

/-- A file in which one tenant has a number for a name. -/
def numberedText : String :=
  "tenants:\n  17: {devices: [{id: d1, device_type_id: pump}]}\n" ++
    "  acme: {devices: [{id: 7, device_type_id: pump}]}\n"

/-- A value that lists one device. -/
def deviceValue (id : Value) : Value :=
  .map [(.str "devices", .list [.map [(.str "id", id), (.str "device_type_id", .str "pump")]])]

/-- The value of the file. -/
def numberedDocument : Value :=
  .map [(.str "tenants",
    .map [(.int 17, deviceValue (.str "d1")), (.str "acme", deviceValue (.int 7))])]

/-- The tenants of the file. -/
def numberedTenants : List TenantEntry :=
  [⟨.int 17, [⟨.str "d1", .str "pump"⟩]⟩, ⟨.str "acme", [⟨.int 7, .str "pump"⟩]⟩]

set_option maxRecDepth 4000 in
theorem load_numberedText :
    (ConfigFile.text numberedText).load = .ok numberedDocument := by
  rfl

theorem lists_numberedTenants :
    ListsTenants numberedDocument numberedTenants := by
  have hentry (key id : Value) :
      TenantEntry.IsIn ⟨key, [⟨id, .str "pump"⟩]⟩ (key, deviceValue id) :=
    ⟨rfl, _, _, rfl, rfl, .cons ⟨_, rfl, rfl, rfl⟩ .nil⟩
  exact ⟨_, _, rfl, rfl, .cons (hentry _ _) (.cons (hentry _ _) .nil)⟩

theorem directory_agrees_iff_numbered :
    (ConfigFile.text numberedText).load = .ok numberedDocument ∧
      ListsTenants numberedDocument numberedTenants ∧
      ofType "acme" "pump" (.file (.text numberedText)) = .ok ["7"] ∧
      ¬ DeviceSource.Finds (.file (.text numberedText)) "17" "pump" "d1" := by
  obtain ⟨-, -, hfound, hlisted⟩ := directory_agrees_iff numberedText numberedDocument
    numberedTenants load_numberedText lists_numberedTenants
  refine ⟨load_numberedText, lists_numberedTenants, ?_, fun hfinds => ?_⟩
  · exact hfound ⟨.str "acme", [⟨.int 7, .str "pump"⟩]⟩ (by simp [numberedTenants]) "acme" "pump"
      rfl
  · obtain ⟨t, ht, hkey, -⟩ :=
      (hlisted ⟨.int 17, [⟨.str "d1", .str "pump"⟩]⟩ (by simp [numberedTenants]) "pump" "d1"
        ⟨⟨.str "d1", .str "pump"⟩, by simp, rfl, rfl⟩).mp hfinds
    rcases List.mem_cons.mp ht with rfl | ht
    · cases hkey
    · rw [List.mem_singleton.mp ht] at hkey
      exact absurd (Value.str.inj hkey) (by decide)

/-- A device that is listed under the name of a tenant is not always found by it. -/
theorem directory_disagrees_numbered :
    ¬ ∀ text document tenants, (ConfigFile.text text).load = .ok document →
      ListsTenants document tenants → ∀ t ∈ tenants, ∀ deviceType id, t.Has deviceType id →
        DeviceSource.Finds (.file (.text text)) t.name deviceType id := by
  intro hall
  obtain ⟨ids, hids, hid⟩ := hall numberedText numberedDocument numberedTenants load_numberedText
    lists_numberedTenants ⟨.int 17, [⟨.str "d1", .str "pump"⟩]⟩ (by simp [numberedTenants])
    "pump" "d1" ⟨⟨.str "d1", .str "pump"⟩, by simp, rfl, rfl⟩
  have hnone : ofType "17" "pump" (.file (.text numberedText)) = .ok [] :=
    ofType_of_forall_ne load_numberedText lists_numberedTenants (by
      simp [numberedTenants])
  rw [show TenantEntry.name _ = "17" from rfl, hnone] at hids
  cases hids
  cases hid

end TelemetryAlerts
